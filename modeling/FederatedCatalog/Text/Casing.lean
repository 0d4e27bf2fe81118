import FederatedCatalog.Text.CasingTable

/-!
# Lower case

The full lower-case mapping of Unicode. Each character is mapped on its own, with two exceptions:
U+0130 becomes two characters, and a capital sigma becomes the final form of the small letter when
it ends a word, that is, when a cased letter stands before it and none after it, characters that
casing ignores not counted.
-/

namespace FederatedCatalog.Text

/-- A letter with a case. -/
def isCased (c : Char) : Bool := casedRanges.holds c

/-- A character that casing looks through. -/
def isCaseIgnorable (c : Char) : Bool := caseIgnorableRanges.holds c

/-- The lower case of one character, wherever it stands. -/
def lowerChar (c : Char) : List Char :=
  if c.toNat < 0x80 then [c.toLower]
  else if c = '\u0130' then ['i', '\u0307']
  else [(lowerShifts.find? c).getD c]

/-- Whether the first character that casing does not ignore is a cased letter. -/
def meetsCased (cs : List Char) : Bool :=
  match cs.dropWhile isCaseIgnorable with
  | [] => false
  | c :: _ => isCased c

/-- Lower the characters `cs`, which follow the reversed characters `before`; the result is added
in reverse to `done`. -/
def lowerFrom (before done : List Char) : List Char → List Char
  | [] => done.reverse
  | c :: cs =>
    let lowered :=
      if c = 'Σ' then
        if meetsCased before && !meetsCased cs then ['ς'] else ['σ']
      else lowerChar c
    lowerFrom (c :: before) (lowered.reverse ++ done) cs

/-- The lower case of a text. -/
def lowercase (s : String) : String := String.ofList (lowerFrom [] [] s.toList)

end FederatedCatalog.Text
