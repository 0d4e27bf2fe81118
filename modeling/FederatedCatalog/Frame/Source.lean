/-!
# Sources of bytes

The reading end of a connection: the bytes that will still arrive, how they are cut into pieces on
the way, and whether the connection is closed or goes silent after the last one. Reading takes bytes
off the front; what a failed reading took is gone.
-/

namespace FederatedCatalog

/-- What happens after the last byte of a source. -/
inductive Ending where
  /-- The connection is closed. -/
  | closed
  /-- Nothing ever arrives again. -/
  | silent
  deriving Repr, DecidableEq, Inhabited

/-- The reading end of a connection. -/
structure Source where
  /-- All bytes of the connection. -/
  bytes : ByteArray
  /-- How many of them have been read. -/
  position : Nat := 0
  /-- The largest piece that each single read hands out; a read with bytes left hands out at least
  one. -/
  piece : Nat → Nat
  /-- How many single reads there have been. -/
  reads : Nat := 0
  /-- What happens after the last byte. -/
  ending : Ending := .closed

namespace Source

/-- The source of some bytes that arrive in pieces as large as asked for. -/
def ofBytes (bytes : ByteArray) (ending : Ending := .closed) : Source :=
  { bytes, piece := fun _ => bytes.size, ending }

/-- How many bytes are left. -/
def remaining (s : Source) : Nat := s.bytes.size - s.position

/-- The bytes that are left. -/
def rest (s : Source) : ByteArray := s.bytes.extract s.position s.bytes.size

/-- How many bytes a single read that asks for `want` hands out. -/
def handout (s : Source) (want : Nat) : Nat := min want (min s.remaining (max 1 (s.piece s.reads)))

/-- The source after a single read of `n` bytes. -/
def advance (s : Source) (n : Nat) : Source :=
  { s with position := s.position + n, reads := s.reads + 1 }

/-- The bytes that a reading got together, and how many are still missing. -/
structure Gathered where
  /-- The bytes. -/
  bytes : ByteArray
  /-- How many bytes did not come. -/
  missing : Nat

/-- Read until `n` bytes have come or none are left, in single reads of at most `limit + 1` bytes;
`got` holds the bytes so far. -/
def gather (limit : Nat) (n : Nat) (got : ByteArray) (s : Source) : Gathered × Source :=
  if n = 0 then (⟨got, 0⟩, s)
  else
    let k := s.handout (min n (limit + 1))
    if k = 0 then (⟨got, n⟩, s)
    else
      gather limit (n - k) (got ++ s.bytes.extract s.position (s.position + k)) (s.advance k)
termination_by n
decreasing_by omega

end Source

end FederatedCatalog
