import FederatedCatalog.Failure

/-!
# File systems

What a server sees of the files on its host: for each path, whether there is a regular file, a
directory or nothing, and the bytes of a file. Paths are sequences of bytes, as the operating system
has them.
-/

namespace FederatedCatalog

/-- A path: the bytes of its name, usually UTF-8. -/
abbrev Path := List UInt8

namespace Path

/-- The bytes of a text. -/
def ofString (s : String) : Path := s.toByteArray.data.toList

/-- The text of a path, if it is UTF-8. -/
def text? (p : Path) : Option String := String.fromUTF8? ⟨p.toArray⟩

/-- The text of a path for messages: a path that is no UTF-8 is shown as a single replacement
character. -/
def display (p : Path) : String := p.text?.getD "\ufffd"

end Path

/-- The bytes of a regular file; their number fits 64 bits. -/
structure FileContent where
  /-- The bytes. -/
  bytes : ByteArray
  /-- No file is longer than 64-bit lengths can say. -/
  size_lt : bytes.size < UInt64.size

namespace FileContent

/-- The empty file. -/
def empty : FileContent := ⟨.empty, by decide⟩

/-- Bytes as the content of a file, unless there are too many. -/
def ofBytes? (bytes : ByteArray) : Option FileContent :=
  if h : bytes.size < UInt64.size then some ⟨bytes, h⟩ else none

/-- The length of a file. -/
def size (content : FileContent) : UInt64 := UInt64.ofNat content.bytes.size

/-- The length in 64 bits is the number of bytes. -/
theorem toNat_size (content : FileContent) : content.size.toNat = content.bytes.size := by
  rw [size, UInt64.toNat_ofNat', Nat.mod_eq_of_lt content.size_lt]

end FileContent

/-- What stands at a path. A request is processed on what is seen there: a regular file is one
whether or not it can be opened. The bytes of an answer are taken from what can be opened later: a
file that is seen but cannot be opened stands as absent in the later file system. -/
inductive Entry where
  /-- Nothing, or nothing that can be opened, and how the operating system says so. -/
  | absent (cause : Failure.IoCause)
  | directory
  | file (content : FileContent)

/-- The length of a regular file; nothing for anything else. -/
def Entry.fileSize? : Entry → Option UInt64
  | file content => some content.size
  | _ => none

/-- What stands at each path at one moment. -/
abbrev FileSystem := Path → Entry

end FederatedCatalog
