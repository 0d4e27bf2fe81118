import FederatedCatalog.Peer.Basic

/-!
# The directory of known servers

A server keeps the list of all servers it knows, itself included, in the order in which it learned
of them. It never drops itself and never lists a server twice.
-/

namespace FederatedCatalog

/-- The servers that one server knows. -/
structure Directory where
  /-- The server that keeps the directory. -/
  self : Peer
  /-- Every known server, in the order in which they were learned. -/
  known : List Peer
  deriving Repr, DecidableEq, Inhabited

namespace Directory

/-- The directory of a server that knows only itself. -/
def start (self : Peer) : Directory := ⟨self, [self]⟩

/-- The known servers other than the keeper. -/
def others (d : Directory) : List Peer := d.known.filter (· != d.self)

/-- Whether a server is known. -/
def holds (d : Directory) (p : Peer) : Bool := d.known.contains p

/-- Whether a server would be new. -/
def isNew (d : Directory) (p : Peer) : Bool := p != d.self && !d.holds p

/-- Whether a server can be removed: it is known and not the keeper. -/
def isRemovable (d : Directory) (p : Peer) : Bool := p != d.self && d.holds p

/-- Append a server that is new. -/
def add (d : Directory) (p : Peer) : Directory :=
  if d.isNew p then { d with known := d.known ++ [p] } else d

/-- Add servers one after the other. -/
def addAll (d : Directory) (ps : List Peer) : Directory := ps.foldl add d

/-- Remove a server other than the keeper. -/
def remove (d : Directory) (p : Peer) : Directory :=
  if d.isRemovable p then { d with known := d.known.erase p } else d

/-- The server to gossip with: among the others the one at the index that the selector gives for
their number, or the last one when the index is too large. -/
def target? (d : Directory) (selector : Nat → Nat) : Option Peer :=
  d.others[min (selector d.others.length) (d.others.length - 1)]?

end Directory

end FederatedCatalog
