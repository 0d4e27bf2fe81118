import FederatedCatalog.Failure
import FederatedCatalog.Resource.Matching

/-!
# The catalog of a server

The resources that a server lists, in the order in which they were first listed. The catalog stores
whatever it is given; who may store what is decided where requests are processed. A crash while the
catalog is being written poisons it: from then on every operation fails.
-/

namespace FederatedCatalog

/-- The resources of a server. -/
structure Catalog where
  /-- The entries, in the order in which they were first listed. -/
  entries : List Resource := []
  /-- Whether a writer crashed. -/
  poisoned : Bool := false
  deriving Repr, DecidableEq, Inhabited

namespace Catalog

/-- Replace the entry with the identity of `r` where it stands, or append `r`. -/
def place (r : Resource) : List Resource → List Resource
  | [] => [r]
  | e :: es => if e.sameIdentity r then r :: es else e :: place r es

/-- Read the entries. -/
def read (c : Catalog) : Except Failure (List Resource) :=
  if c.poisoned then .error (.poisoned .read) else .ok c.entries

/-- Take hold of the entries for writing. -/
def write (c : Catalog) : Except Failure (List Resource) :=
  if c.poisoned then .error (.poisoned .write) else .ok c.entries

/-- The number of entries. -/
def size (c : Catalog) : Except Failure Nat := c.read.map List.length

/-- Whether there are no entries. -/
def isEmpty (c : Catalog) : Except Failure Bool := c.read.map List.isEmpty

/-- Store a resource, in place of the entry with its identity if there is one. The answer says
whether there was one. -/
def store (c : Catalog) (r : Resource) : Except Failure (Bool × Catalog) :=
  c.write.map fun es => (es.any (·.sameIdentity r), { c with entries := place r es })

/-- Remove the first entry with a property, and give it back. -/
def removeFirst (c : Catalog) (p : Resource → Bool) :
    Except Failure (Option Resource × Catalog) :=
  c.write.map fun es => (es.find? p, { c with entries := es.eraseP p })

/-- The first entry with a property. -/
def find? (c : Catalog) (p : Resource → Bool) : Except Failure (Option Resource) :=
  c.read.map (·.find? p)

/-- Whether some entry has a property. -/
def any (c : Catalog) (p : Resource → Bool) : Except Failure Bool := c.read.map (·.any p)

/-- Whether another owner holds the location of a resource. -/
def hasConflict (c : Catalog) (r : Resource) : Except Failure Bool :=
  c.any fun e => e.sameLocation r && e.owner != r.owner

/-- Copies, fit to be handed out, of the entries that meet a template. -/
def query (c : Catalog) (template : Resource) (origin : String) : Except Failure (List Resource) :=
  c.read.map fun es => (es.filter (·.matchedBy template)).map (·.sanitized origin)

/-- Poison the catalog by a writer that crashes at an entry. Without an entry, or when the catalog
is poisoned already, no writer gets that far. -/
def poison (c : Catalog) : Bool × Catalog :=
  if c.poisoned || c.entries.isEmpty then (false, c) else (true, { c with poisoned := true })

end Catalog

end FederatedCatalog
