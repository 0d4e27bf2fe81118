import FederatedCatalog.Text.NormalizationTable

/-!
# Canonical composition

The composed normal form of a text: every character is taken apart, the marks after each starter are
brought into the order of their combining classes, and then starters take in the marks and letters
that they form a character with. Hangul syllables are taken apart and put together by arithmetic.
-/

namespace FederatedCatalog.Text

/-- The combining class of a character; zero for a starter. -/
def combiningClass (c : Char) : Nat := (combiningClasses.valueAt c).toNat

namespace Hangul

/-- The first leading consonant, and the number of them. -/
def leads : Nat × Nat := (0x1100, 19)

/-- The first vowel, and the number of them. -/
def vowels : Nat × Nat := (0x1161, 21)

/-- The place of the absent trailing consonant, and the number of them with that one. -/
def tails : Nat × Nat := (0x11A7, 28)

/-- The first syllable. -/
def syllables : Nat := 0xAC00

/-- The letters of a syllable. -/
def decompose? (c : Char) : Option (List Char) :=
  let i := c.toNat - syllables
  if c.toNat < syllables ∨ leads.2 * vowels.2 * tails.2 ≤ i then none
  else
    let lead := Char.ofNat (leads.1 + i / tails.2 / vowels.2)
    let vowel := Char.ofNat (vowels.1 + i / tails.2 % vowels.2)
    some (if i % tails.2 = 0 then [lead, vowel]
      else [lead, vowel, Char.ofNat (tails.1 + i % tails.2)])

/-- The place of a letter among the letters of a kind. -/
def place? (kind : Nat × Nat) (c : Char) : Option Nat :=
  if kind.1 ≤ c.toNat ∧ c.toNat < kind.1 + kind.2 then some (c.toNat - kind.1) else none

/-- The syllable made of a consonant and a vowel, or of an open syllable and a consonant. -/
def compose? (c d : Char) : Option Char :=
  match place? leads c, place? vowels d with
  | some lead, some vowel => some (Char.ofNat (syllables + (lead * vowels.2 + vowel) * tails.2))
  | _, _ =>
    match place? (syllables, leads.2 * vowels.2 * tails.2) c, place? tails d with
    | some i, some (tail + 1) =>
      if i % tails.2 = 0 then some (Char.ofNat (c.toNat + tail + 1)) else none
    | _, _ => none

end Hangul

/-- Take a character apart, `depth` times at most. -/
def decomposeTo (depth : Nat) (c : Char) : List Char :=
  match depth, compositions[c.toNat]? with
  | depth + 1, some (first :: rest) => decomposeTo depth first ++ rest
  | _, _ => [c]

/-- Take a character apart. No character is made in more than three steps. -/
def decompose (c : Char) : List Char := (Hangul.decompose? c).getD (decomposeTo 3 c)

/-- Put a mark behind those that do not belong after it. -/
def insertMark (c : Char) : List Char → List Char
  | [] => [c]
  | d :: ds => if combiningClass c < combiningClass d then c :: d :: ds else d :: insertMark c ds

/-- Order the marks between starters, of which `marks` were met since the last one. -/
def orderMarks (marks : List Char) : List Char → List Char
  | [] => marks
  | c :: cs =>
    if combiningClass c = 0 then marks ++ c :: orderMarks [] cs
    else orderMarks (insertMark c marks) cs

/-- The pairs of code points that form one character. -/
def pairings : Std.HashMap (List Nat) Char :=
  compositions.fold (fun t c parts => t.insert (parts.map Char.toNat) (Char.ofNat c)) ∅

/-- The character that two others form. -/
def pair? (c d : Char) : Option Char := (Hangul.compose? c d).or pairings[[c.toNat, d.toNat]]?

/-- Put characters together: `starter` takes in what it can, and `marks` holds in reverse those
after it that it could not take in. A mark of the same or a higher class in between keeps a starter
from taking one in. -/
def composeFrom (starter : Char) (marks : List Char) : List Char → List Char
  | [] => starter :: marks.reverse
  | c :: cs =>
    let reaches := marks.head?.all fun m => combiningClass m < combiningClass c
    match if reaches then pair? starter c else none with
    | some composed => composeFrom composed marks cs
    | none =>
      if combiningClass c = 0 then starter :: marks.reverse ++ composeFrom c [] cs
      else composeFrom starter (c :: marks) cs

/-- Put characters together. Marks before the first starter stay as they are. -/
def composeAll (cs : List Char) : List Char :=
  let (marks, rest) := cs.span fun c => combiningClass c != 0
  match rest with
  | [] => marks
  | c :: cs => marks ++ composeFrom c [] cs

/-- The composed normal form. -/
def normalize (cs : List Char) : List Char := composeAll (orderMarks [] (cs.flatMap decompose))

end FederatedCatalog.Text
