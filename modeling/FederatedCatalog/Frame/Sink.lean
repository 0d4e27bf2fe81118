/-!
# Sinks of bytes

The writing end of a connection: the bytes that were accepted, and how many more are accepted before
the connection blocks for good.
-/

namespace FederatedCatalog

/-- The writing end of a connection. -/
structure Sink where
  /-- The bytes that were accepted. -/
  accepted : ByteArray := .empty
  /-- How many more bytes are accepted; no bound if absent. -/
  room : Option Nat := none

namespace Sink

/-- How many of `n` bytes are accepted when there is this much room. -/
def capacity (room : Option Nat) (n : Nat) : Nat :=
  match room with
  | none => n
  | some room => min room n

/-- Write bytes. The answer says whether all were accepted; those that were not are lost. -/
def write (s : Sink) (bytes : ByteArray) : Bool × Sink :=
  match s with
  | ⟨accepted, room⟩ =>
    let n := capacity room bytes.size
    (n == bytes.size, ⟨accepted ++ bytes.extract 0 n, room.map (· - n)⟩)

end Sink

end FederatedCatalog
