import FederatedCatalog.Json.Basic
import FederatedCatalog.Json.Magnitude
import FederatedCatalog.Text.RangeTable

/-!
# Reading JSON

A strict reader of RFC 8259 over the characters of a text. Beyond the grammar it refuses arrays and
objects nested more than 127 deep, escapes of lone surrogates and decimals beyond the range of
doubles. `parse?` reads a whole text; the other readers take one item off the front and give back
what follows it.
-/

namespace FederatedCatalog.Json

open Text (hexDigit?)

/-- The value of a decimal digit. -/
def digit? (c : Char) : Option Nat :=
  if '0' ≤ c ∧ c ≤ '9' then some (c.toNat - '0'.toNat) else none

/-- The four characters that may stand between tokens. -/
def isSpace (c : Char) : Bool := c == ' ' || c == '\t' || c == '\n' || c == '\r'

/-- Drop the spaces at the front. -/
def skipSpace (cs : List Char) : List Char := cs.dropWhile isSpace

/-! ## Numbers -/

/-- The digits at the front, by value, and what follows them. -/
def digits (cs : List Char) : List Nat × List Char :=
  let (run, rest) := cs.span fun c => (digit? c).isSome
  (run.filterMap digit?, rest)

/-- Shift digits into a significand as long as it stays below `2 ^ 64`; the second component counts
the digits that were taken and the third those that were left over. -/
def accumulate : Nat → Nat → List Nat → Nat × Nat × Nat
  | significand, taken, [] => (significand, taken, 0)
  | significand, taken, d :: ds =>
    if significand * 10 + d < UInt64.size then accumulate (significand * 10 + d) (taken + 1) ds
    else (significand, taken, ds.length + 1)

/-- The digits after the point, and what follows them: nothing when there is no point, a refusal
when no digit follows it. -/
def fraction? : List Char → Option (Option (List Nat) × List Char)
  | '.' :: cs =>
    match digits cs with
    | ([], _) => none
    | (ds, rest) => some (some ds, rest)
  | cs => some (none, cs)

/-- The digits of an exponent, with its sign. -/
def signedExponent? (negative : Bool) (cs : List Char) : Option (Option Int × List Char) :=
  match digits cs with
  | ([], _) => none
  | (ds, rest) =>
    let n := ds.foldl (fun n d => 10 * n + d) 0
    some (some (if negative then - Int.ofNat n else Int.ofNat n), rest)

/-- The exponent, and what follows it: nothing when there is no `e`, a refusal when no digit
follows it. -/
def exponent? : List Char → Option (Option Int × List Char)
  | 'e' :: cs | 'E' :: cs =>
    match cs with
    | '+' :: cs => signedExponent? false cs
    | '-' :: cs => signedExponent? true cs
    | cs => signedExponent? false cs
  | cs => some (none, cs)

/-- The number written by a sign, the digits before the point, the digits after it and an
exponent. A refusal means that the number is too large. Digits that no longer fit the significand
count as zeros before the point and are dropped after it. -/
def toNumber? (negative : Bool) (whole : List Nat) (fraction : Option (List Nat))
    (exponent : Option Int) : Option Number :=
  let (significand, _, dropped) := accumulate 0 0 whole
  if fraction = none ∧ exponent = none ∧ dropped = 0 ∧ ¬ (negative ∧ significand = 0) ∧
      ¬ (negative ∧ 0x8000000000000000 < significand) then
    some (.integer (if negative then - Int.ofNat significand else Int.ofNat significand))
  else
    let (significand, taken, _) := accumulate significand 0 (fraction.getD [])
    let exponent := Int.ofNat dropped - Int.ofNat taken + exponent.getD 0
    if isFinite significand exponent then some (.decimal negative significand exponent) else none

/-- A number without its sign. -/
def unsigned? (negative : Bool) (cs : List Char) : Option (Json × List Char) :=
  match digits cs with
  | ([], _) => none
  | (0 :: _ :: _, _) => none
  | (whole, rest) => do
    let (fraction, rest) ← fraction? rest
    let (exponent, rest) ← exponent? rest
    let n ← toNumber? negative whole fraction exponent
    some (.number n, rest)

/-- A number. -/
def number? : List Char → Option (Json × List Char)
  | '-' :: cs => unsigned? true cs
  | cs => unsigned? false cs

/-! ## Strings -/

/-- The number of four hexadecimal digits. -/
def hex4? (a b c d : Char) : Option Nat := do
  return (((← hexDigit? a) * 16 + (← hexDigit? b)) * 16 + (← hexDigit? c)) * 16 + (← hexDigit? d)

/-- The character of an escape of one letter. -/
def simpleEscape? : Char → Option Char
  | '"' => some '"'
  | '\\' => some '\\'
  | '/' => some '/'
  | 'b' => some '\x08'
  | 'f' => some '\x0c'
  | 'n' => some '\n'
  | 'r' => some '\r'
  | 't' => some '\t'
  | _ => none

/-- The rest of a string after its opening quote; `done` holds the characters so far in reverse. -/
def stringBody? (done : List Char) : List Char → Option (String × List Char)
  | [] => none
  | '"' :: rest => some (String.ofList done.reverse, rest)
  | '\\' :: 'u' :: a :: b :: c :: d :: rest =>
    match hex4? a b c d with
    | none => none
    | some high =>
      if 0xD800 ≤ high ∧ high < 0xDC00 then
        match rest with
        | '\\' :: 'u' :: e :: f :: g :: h :: rest =>
          match hex4? e f g h with
          | none => none
          | some low =>
            if 0xDC00 ≤ low ∧ low < 0xE000 then
              stringBody? (Char.ofNat (0x10000 + (high - 0xD800) * 0x400 + (low - 0xDC00)) :: done)
                rest
            else none
        | _ => none
      else if 0xDC00 ≤ high ∧ high < 0xE000 then none
      else stringBody? (Char.ofNat high :: done) rest
  | '\\' :: c :: rest =>
    match simpleEscape? c with
    | none => none
    | some c => stringBody? (c :: done) rest
  | c :: rest => if c.toNat < 0x20 then none else stringBody? (c :: done) rest

/-- A string, its opening quote included. -/
def quoted? : List Char → Option (String × List Char)
  | '"' :: rest => stringBody? [] rest
  | _ => none

/-! ## Values -/

/-- Items separated by commas up to the closing character; `done` holds the items so far in
reverse. The first argument bounds the number of items. -/
def items? {α : Type} (item : List Char → Option (α × List Char)) (close : Char) :
    Nat → List α → List Char → Option (List α × List Char)
  | 0, _, _ => none
  | bound + 1, done, cs =>
    match item cs with
    | none => none
    | some (a, rest) =>
      match skipSpace rest with
      | [] => none
      | c :: rest =>
        if c = ',' then items? item close bound (a :: done) rest
        else if c = close then some ((a :: done).reverse, rest)
        else none

/-- Items separated by commas, or none at all, after the opening character. -/
def list? {α : Type} (item : List Char → Option (α × List Char)) (close : Char) (bound : Nat)
    (cs : List Char) : Option (List α × List Char) :=
  match skipSpace cs with
  | [] => none
  | c :: rest => if c = close then some ([], rest) else items? item close bound [] (c :: rest)

/-- A key, a colon and a value. -/
def member? (value : List Char → Option (Json × List Char)) (cs : List Char) :
    Option ((String × Json) × List Char) := do
  let (key, rest) ← quoted? (skipSpace cs)
  match skipSpace rest with
  | ':' :: rest =>
    let (v, rest) ← value rest
    some ((key, v), rest)
  | _ => none

/-- A value that is neither an array nor an object. -/
def scalar? : List Char → Option (Json × List Char)
  | 'n' :: 'u' :: 'l' :: 'l' :: rest => some (.null, rest)
  | 't' :: 'r' :: 'u' :: 'e' :: rest => some (.bool true, rest)
  | 'f' :: 'a' :: 'l' :: 's' :: 'e' :: rest => some (.bool false, rest)
  | '"' :: rest => (stringBody? [] rest).map fun (s, rest) => (.string s, rest)
  | cs => number? cs

/-- A value nested at most `depth` deep, after any spaces; `bound` bounds the number of items of
each array and object. -/
def value? (bound : Nat) : Nat → List Char → Option (Json × List Char)
  | 0, cs =>
    match skipSpace cs with
    | '[' :: _ | '{' :: _ => none
    | cs => scalar? cs
  | depth + 1, cs =>
    match skipSpace cs with
    | '[' :: rest =>
      (list? (value? bound depth) ']' bound rest).map fun (vs, rest) => (.array vs, rest)
    | '{' :: rest =>
      (list? (member? (value? bound depth)) '}' bound rest).map fun (ms, rest) => (.object ms, rest)
    | cs => scalar? cs

/-- How deep arrays and objects may nest. -/
def maxDepth : Nat := 127

/-- The value that a whole text writes. -/
def parseChars? (cs : List Char) : Option Json :=
  match value? (cs.length + 1) maxDepth cs with
  | some (v, rest) => if (skipSpace rest).isEmpty then some v else none
  | none => none

/-- The value that a whole text writes. -/
def parse? (text : String) : Option Json := parseChars? text.toList

end FederatedCatalog.Json
