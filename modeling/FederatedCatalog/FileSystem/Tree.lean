import FederatedCatalog.FileSystem.Basic

/-!
# Trees of files

A finite tree of directories and files, and the file system that it makes. A path is walked name by
name from the root: empty names and `.` stay where they are, `..` goes up, and each step must start
in a directory. So a path to a file that ends with a slash leads nowhere.
-/

namespace FederatedCatalog

/-- A tree of directories and files. Every node is listed under the names that lead to it from the
root; the root itself is always a directory. -/
structure FileTree where
  /-- The nodes: no content for a directory. -/
  nodes : List (List Path × Option FileContent) := []

namespace FileTree

/-- The tree with nothing but its root. -/
def empty : FileTree := ⟨[]⟩

/-- The node under some names. -/
def node? (t : FileTree) (names : List Path) : Option (Option FileContent) :=
  if names.isEmpty then some none else t.nodes.lookup names

/-- The names of a path; neighbouring slashes enclose an empty name. -/
def split : Path → List Path
  | [] => [[]]
  | b :: rest =>
    if b = 0x2F then [] :: split rest
    else match split rest with
      | [] => [[b]]
      | name :: names => (b :: name) :: names

/-- Walk along names from the node under `here`. -/
def walk (t : FileTree) (here : List Path) : List Path → Entry
  | [] =>
    match t.node? here with
    | none => .absent .notFound
    | some none => .directory
    | some (some content) => .file content
  | name :: names =>
    match t.node? here with
    | none => .absent .notFound
    | some (some _) => .absent .notADirectory
    | some none =>
      if name = [] ∨ name = [0x2E] then walk t here names
      else if name = [0x2E, 0x2E] then walk t here.dropLast names
      else if 255 < name.length then .absent .nameTooLong
      else walk t (here ++ [name]) names

/-- What stands at a path. A path with a NUL byte or of 4096 bytes and more names nothing. -/
def entry (t : FileTree) (path : Path) : Entry :=
  if path = [] then .absent .notFound
  else if path.contains 0 then .absent .invalidInput
  else if 4096 ≤ path.length then .absent .nameTooLong
  else t.walk [] (split path)

/-- The names along a path that say something. -/
def names (path : Path) : List Path := (split path).filter fun name => name ≠ [] ∧ name ≠ [0x2E]

/-- Put a node under some names, in place of what stands there. -/
def put (t : FileTree) (ns : List Path) (content : Option FileContent) : FileTree :=
  ⟨(ns, content) :: t.nodes.filter (·.1 ≠ ns)⟩

/-- Make a directory and those above it, as far as they are missing. -/
def makeDirectories (t : FileTree) (ns : List Path) : FileTree :=
  ((List.range (ns.length + 1)).map ns.take).foldl
    (fun t above => if (t.node? above).isSome then t else t.put above none) t

/-- Write a file, making the directories above it. -/
def writeFile (t : FileTree) (path : Path) (content : FileContent) : FileTree :=
  (t.makeDirectories (names path).dropLast).put (names path) (some content)

/-- Make a directory, with those above it. -/
def makeDirectory (t : FileTree) (path : Path) : FileTree := t.makeDirectories (names path)

/-- Delete a file, or a directory with all that it holds. -/
def delete (t : FileTree) (path : Path) : FileTree :=
  ⟨t.nodes.filter fun node => ¬ (names path).isPrefixOf node.1⟩

end FileTree

end FederatedCatalog
