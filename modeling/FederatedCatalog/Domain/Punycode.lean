/-!
# Punycode

The writing of a label in lower-case ASCII letters, digits and hyphens. The ASCII characters of the
label come first, followed by a hyphen if there are any. Then comes one number for each of the other
characters, in ascending order of code points and then of places: the distance from the last
insertion to this one, where one step moves by one place and a full round over all places moves to
the next code point. Numbers are written in base 36, lowest digit first; a digit below its threshold
ends the number, and the thresholds follow the sizes of the numbers before.
-/

namespace FederatedCatalog.Domain.Punycode

/-- The base of the digits. -/
def base : Nat := 36

/-- The least threshold. -/
def minThreshold : Nat := 1

/-- The greatest threshold. -/
def maxThreshold : Nat := 26

/-- The first code point that is not written as it is. -/
def firstCode : Nat := 0x80

/-- The bias before the first number. -/
def firstBias : Nat := 72

/-- Numbers are less than this. -/
def bound : Nat := UInt32.size

/-- The digit of a number below 36. -/
def digitChar (n : Nat) : Char := Char.ofNat (if n < 26 then 'a'.toNat + n else '0'.toNat + n - 26)

/-- The value of a digit, in either case. -/
def digitValue? (c : Char) : Option Nat :=
  if c.isLower then some (c.toNat - 'a'.toNat)
  else if c.isUpper then some (c.toNat - 'A'.toNat)
  else if c.isDigit then some (c.toNat - '0'.toNat + 26)
  else none

/-- The threshold of the digit at the position `k`, which counts in steps of the base. -/
def threshold (bias k : Nat) : Nat := min maxThreshold (max minThreshold (k - bias))

/-- A threshold is positive, so a number is finished in the end. -/
theorem one_le_threshold (bias k : Nat) : 1 ≤ threshold bias k := by
  simp only [threshold, minThreshold, maxThreshold]; omega

/-- Bring a scaled distance below the bound for the bias, counting the base for each division. -/
def scaleDown (delta k : Nat) : Nat × Nat :=
  if (base - minThreshold) * maxThreshold / 2 < delta then
    scaleDown (delta / (base - minThreshold)) (k + base)
  else (delta, k)
termination_by delta
decreasing_by simp only [base, minThreshold] at *; omega

/-- The bias after a number `delta` when the label has `count` characters. -/
def adapt (delta count : Nat) (isFirst : Bool) : Nat :=
  let delta := if isFirst then delta / 700 else delta / 2
  let (delta, k) := scaleDown (delta + delta / count) 0
  k + (base - minThreshold + 1) * delta / (delta + 38)

/-- The digits of a number, the first one at the position `k`. -/
def writeNumber (bias k n : Nat) : List Char :=
  let t := threshold bias k
  if n < t then [digitChar n]
  else digitChar (t + (n - t) % (base - t)) :: writeNumber bias (k + base) ((n - t) / (base - t))
termination_by n
decreasing_by
  have := one_le_threshold bias k
  have := Nat.div_le_self (n - threshold bias k) (base - threshold bias k)
  omega

/-- What is known while a label is written. -/
structure Writer where
  /-- The distance since the last insertion. -/
  delta : Nat
  /-- The bias of the next number. -/
  bias : Nat
  /-- The number of characters that are written. -/
  written : Nat
  /-- The digits so far, in reverse. -/
  digits : List Char := []

/-- Pass by one place of the label on the round for `code`. -/
def Writer.pass (basics code : Nat) (w : Writer) (c : Char) : Writer :=
  if c.toNat < code then { w with delta := w.delta + 1 }
  else if c.toNat = code then
    { delta := 0
      bias := adapt w.delta (w.written + 1) (w.written == basics)
      written := w.written + 1
      digits := (writeNumber w.bias base w.delta).reverse ++ w.digits }
  else w

/-- Make the rounds for the given code points in ascending order; `next` is the code point after the
last one that had a round. -/
def rounds (basics : Nat) (cs : List Char) (next : Nat) (w : Writer) : List Nat → Writer
  | [] => w
  | code :: codes =>
    let w := { w with delta := w.delta + (code - next) * (w.written + 1) }
    let w := cs.foldl (Writer.pass basics code) w
    rounds basics cs (code + 1) { w with delta := w.delta + 1 } codes

/-- The writing of a label. -/
def encode (cs : List Char) : List Char :=
  let basic := cs.filter fun c => c.toNat < firstCode
  let codes := ((cs.map Char.toNat).filter (firstCode ≤ ·)).mergeSort.eraseDups
  let w : Writer := { delta := 0, bias := firstBias, written := basic.length }
  let head := if basic.isEmpty then [] else basic ++ ['-']
  head ++ (rounds basic.length cs firstCode w codes).digits.reverse

/-- What is known while a label is read. -/
structure Reader where
  /-- The characters so far. -/
  label : List Char
  /-- The code point of the last insertion. -/
  code : Nat := firstCode
  /-- The place after the last insertion; zero only before the first one. -/
  place : Nat := 0
  /-- The bias of the number. -/
  bias : Nat := firstBias
  /-- The value of the digits of the number so far. -/
  delta : Nat := 0
  /-- The weight of the next digit of the number. -/
  weight : Nat := 1
  /-- The position of the next digit of the number. -/
  position : Nat := base

/-- Insert the character that the number stands for, and start a new number. -/
def Reader.insert? (r : Reader) : Option Reader :=
  let count := r.label.length + 1
  let code := r.code + (r.place + r.delta) / count
  let place := (r.place + r.delta) % count
  if code.isValidChar then
    some
      { label := r.label.take place ++ Char.ofNat code :: r.label.drop place
        code
        place := place + 1
        bias := adapt r.delta count (r.place == 0) }
  else none

/-- Read one digit. -/
def Reader.digit? (r : Reader) (c : Char) : Option Reader := do
  let digit ← digitValue? c
  let r := { r with delta := r.delta + digit * r.weight }
  if bound ≤ r.place + r.delta then none
  let t := threshold r.bias r.position
  if digit < t then r.insert?
  else
    let weight := r.weight * (base - t)
    if bound ≤ weight then none
    return { r with weight, position := r.position + base }

/-- The label that is written so, unless a digit is none or the last number has no end. -/
def decode? (cs : List Char) : Option (List Char) := do
  let (tail, front) := cs.reverse.span (· != '-')
  let basic := front.drop 1
  let digits := if basic.isEmpty then cs else tail.reverse
  let r ← digits.foldlM Reader.digit? { label := basic.reverse }
  if r.position = base then return r.label else none

end FederatedCatalog.Domain.Punycode
