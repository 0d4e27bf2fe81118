import FederatedCatalog.IpAddress.Basic
import FederatedCatalog.Text.RangeTable

/-!
# Reading IP addresses

The numbers of a version 4 address are decimal, at most 255 and without leading zeros. A version 6
address has eight groups of one to four hexadecimal digits; the last two may be written as a version
4 address, and one run of groups, at least one long, may be left out at `::`. Nothing may follow.
-/

namespace FederatedCatalog.IpAddress

open Text (hexDigit?)

/-- The value of a digit in a base up to sixteen. -/
def digit? (base : Nat) (c : Char) : Option Nat := (hexDigit? c).filter (· < base)

/-- A number of at most `maxDigits` digits, and what follows it. -/
def number? (base maxDigits : Nat) (allowLeadingZero : Bool) (cs : List Char) :
    Option (Nat × List Char) :=
  let (run, rest) := cs.span fun c => (digit? base c).isSome
  if run.isEmpty ∨ maxDigits < run.length then none
  else if ¬ allowLeadingZero ∧ run.head? = some '0' ∧ 1 < run.length then none
  else some ((run.filterMap (digit? base)).foldl (fun n d => base * n + d) 0, rest)

/-- A number from 0 to 255. -/
def octet? (cs : List Char) : Option (Nat × List Char) :=
  (number? 10 3 false cs).filter (·.1 < 256)

/-- The next octet after a dot. -/
def dottedOctet? : List Char → Option (Nat × List Char)
  | '.' :: cs => octet? cs
  | _ => none

/-- A version 4 address, and what follows it. -/
def v4? (cs : List Char) : Option (UInt32 × List Char) := do
  let (a, cs) ← octet? cs
  let (b, cs) ← dottedOctet? cs
  let (c, cs) ← dottedOctet? cs
  let (d, cs) ← dottedOctet? cs
  return (ofOctets [a, b, c, d], cs)

/-- What stands before the group with this index: a colon except before the first one. -/
def separated? (index : Nat) (cs : List Char) : Option (List Char) :=
  if index = 0 then some cs
  else match cs with
    | ':' :: cs => some cs
    | _ => none

/-- As many groups as possible from the group with this index on, of `limit` groups in all; whether
they end with a version 4 address; and what follows. -/
def groups? (limit : Nat) : (room index : Nat) → List Char → List Nat × Bool × List Char
  | 0, _, cs => ([], false, cs)
  | room + 1, index, cs =>
    match separated? index cs with
    | none => ([], false, cs)
    | some rest =>
      match if index + 1 < limit then v4? rest else none with
      | some (bits, rest) => ([bits.toNat / 65536, bits.toNat % 65536], true, rest)
      | none =>
        match number? 16 4 true rest with
        | none => ([], false, cs)
        | some (n, rest) =>
          let (ns, embedded, rest) := groups? limit room (index + 1) rest
          (n :: ns, embedded, rest)

/-- A version 6 address, and what follows it. -/
def v6? (cs : List Char) : Option (BitVec 128 × List Char) :=
  let (head, embedded, rest) := groups? 8 8 0 cs
  if head.length = 8 then some (ofGroups head, rest)
  else if embedded then none
  else match rest with
    | ':' :: ':' :: rest =>
      let limit := 7 - head.length
      let (tail, _, rest) := groups? limit limit 0 rest
      some (ofGroups (head ++ List.replicate (8 - head.length - tail.length) 0 ++ tail), rest)
    | _ => none

/-- The address that a whole text writes. -/
def parse? (text : String) : Option IpAddress :=
  match v4? text.toList with
  | some (bits, rest) => if rest.isEmpty then some (v4 bits) else none
  | none =>
    match v6? text.toList with
    | some (bits, rest) => if rest.isEmpty then some (v6 bits) else none
    | none => none

end FederatedCatalog.IpAddress
