/-!
# Range tables

A table of a Unicode property: disjoint ranges of code points in ascending order, each with one
number attached. Tables are written as text, one range a word: `41-5A+20` is the range from U+0041
to U+005A with the number 32, `B5~7` the single code point U+00B5 with the number -7; a word
without a sign has the number 0. All digits are hexadecimal.
-/

namespace FederatedCatalog.Text

/-- A range of code points and the number attached to it. -/
structure CodeRange where
  /-- The first code point of the range. -/
  first : Nat
  /-- The last code point of the range. -/
  last : Nat
  /-- The number attached to every code point of the range. -/
  value : Int
  deriving Repr, DecidableEq, Inhabited

/-- Ranges in ascending order, none of which meet. -/
abbrev RangeTable := Array CodeRange

/-- The value of a hexadecimal digit, in either case. -/
def hexDigit? (c : Char) : Option Nat :=
  if '0' ≤ c ∧ c ≤ '9' then some (c.toNat - '0'.toNat)
  else if 'a' ≤ c ∧ c ≤ 'f' then some (c.toNat - 'a'.toNat + 10)
  else if 'A' ≤ c ∧ c ≤ 'F' then some (c.toNat - 'A'.toNat + 10)
  else none

namespace RangeTable

/-- The number that hexadecimal digits write; other characters count as zero. -/
def hex (cs : List Char) : Nat := cs.foldl (fun n c => 16 * n + (hexDigit? c).getD 0) 0

/-- Read one word of a table. -/
def word (cs : List Char) : CodeRange :=
  let (bounds, tail) := cs.span fun c => c != '+' && c != '~'
  let (low, high) := bounds.span (· != '-')
  let value : Int := match tail with
    | '+' :: digits => Int.ofNat (hex digits)
    | '~' :: digits => - Int.ofNat (hex digits)
    | _ => 0
  match high with
  | _ :: digits => ⟨hex low, hex digits, value⟩
  | [] => ⟨hex low, hex low, value⟩

/-- Read a table from the lines that hold its words. -/
def ofLines (lines : List String) : RangeTable :=
  (lines.flatMap fun line => (line.splitOn " ").map fun w => word w.toList).toArray

/-- The last range among those from `low` to below `high` that starts at or before `n`, found by
halving; `found` is the best range so far. -/
def search (t : RangeTable) (n low high : Nat) (found : Option CodeRange) : Option CodeRange :=
  if low < high then
    let mid := low + (high - low) / 2
    match t[mid]? with
    | none => found
    | some r => if r.first ≤ n then search t n (mid + 1) high (some r) else search t n low mid found
  else found
termination_by high - low

/-- The range that holds the code point `n`. -/
def find? (t : RangeTable) (n : Nat) : Option CodeRange :=
  (search t n 0 t.size none).filter fun r => n ≤ r.last

/-- Whether some range holds the character. -/
def holds (t : RangeTable) (c : Char) : Bool := (find? t c.toNat).isSome

/-- The number attached to a character, or zero. -/
def valueAt (t : RangeTable) (c : Char) : Int := ((find? t c.toNat).map CodeRange.value).getD 0

end RangeTable

/-- A table that sends characters to one other character each. -/
structure ShiftTable where
  /-- Runs of characters whose images lie at one distance from them, the number of the run. -/
  runs : RangeTable
  /-- Runs of alternating pairs: a character with an image at every even offset, and its image right
  after it. -/
  pairs : RangeTable

/-- The image of a character, if it has one. -/
def ShiftTable.find? (t : ShiftTable) (c : Char) : Option Char :=
  match t.runs.find? c.toNat with
  | some r => some (Char.ofNat (Int.ofNat c.toNat + r.value).toNat)
  | none =>
    match t.pairs.find? c.toNat with
    | some r => if (c.toNat - r.first) % 2 = 0 then some (Char.ofNat (c.toNat + 1)) else none
    | none => none

end FederatedCatalog.Text
