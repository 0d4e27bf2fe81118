/-!
# IP addresses

Addresses of both versions as bit strings, and their canonical text: four decimal numbers for
version 4; for version 6 eight groups of hexadecimal digits, of which the first longest run of two
or more zero groups is written `::`, and an embedded version 4 address keeps its own form.
-/

namespace FederatedCatalog

/-- An IP address. -/
inductive IpAddress where
  /-- A version 4 address, its first number in the highest byte. -/
  | v4 (bits : UInt32)
  /-- A version 6 address, its first group in the highest 16 bits. -/
  | v6 (bits : BitVec 128)
  deriving Repr, DecidableEq, Hashable

namespace IpAddress

/-- The version 4 address with these four numbers. -/
def ofOctets (octets : List Nat) : UInt32 :=
  UInt32.ofNat (octets.foldl (fun n octet => n * 256 + octet) 0)

/-- The four numbers of a version 4 address. -/
def octets (bits : UInt32) : List Nat :=
  [24, 16, 8, 0].map fun shift => (bits.toNat >>> shift) % 256

/-- The version 6 address with these eight groups. -/
def ofGroups (groups : List Nat) : BitVec 128 :=
  BitVec.ofNat 128 (groups.foldl (fun n group => n * 65536 + group) 0)

/-- The eight groups of a version 6 address. -/
def groups (bits : BitVec 128) : List Nat :=
  [112, 96, 80, 64, 48, 32, 16, 0].map fun shift => (bits.toNat >>> shift) % 65536

/-- The text of a version 4 address. -/
def v4Text (bits : UInt32) : String := ".".intercalate ((octets bits).map toString)

/-- A group without leading zeros. -/
def groupText (n : Nat) : String := String.ofList (Nat.toDigits 16 n)

/-- Groups with colons between them. -/
def groupsText (ns : List Nat) : String := ":".intercalate (ns.map groupText)

/-- The length of the run of zeros at the front. -/
def zeroRun (ns : List Nat) : Nat := (ns.takeWhile (· == 0)).length

/-- Where the first longest run of zeros starts, and its length; both are zero without a run. -/
def longestZeroRun (ns : List Nat) : Nat × Nat :=
  (List.range ns.length).foldl (fun (start, length) i =>
    let run := zeroRun (ns.drop i)
    if length < run then (i, run) else (start, length)) (0, 0)

/-- The text of a version 6 address. -/
def v6Text (bits : BitVec 128) : String :=
  let ns := groups bits
  if ns.take 6 = [0, 0, 0, 0, 0, 0xFFFF] then
    "::ffff:" ++ v4Text (UInt32.ofNat (bits.toNat % UInt32.size))
  else
    let (start, length) := longestZeroRun ns
    if 1 < length then
      groupsText (ns.take start) ++ "::" ++ groupsText (ns.drop (start + length))
    else groupsText ns

/-- The canonical text of an address. -/
def text : IpAddress → String
  | v4 bits => v4Text bits
  | v6 bits => v6Text bits

/-- The text of an address together with a port; a version 6 address stands in brackets. -/
def textWithPort (address : IpAddress) (port : UInt16) : String :=
  match address with
  | v4 bits => v4Text bits ++ ":" ++ toString port.toNat
  | v6 bits => "[" ++ v6Text bits ++ "]:" ++ toString port.toNat

end IpAddress

end FederatedCatalog
