/-!
# Substrings

Whether a text occurs in another one as a run of neighbouring characters.
-/

namespace FederatedCatalog.Text

/-- Whether `needle` occurs in the characters given last. -/
def occursIn (needle : List Char) : List Char → Bool
  | [] => needle.isEmpty
  | c :: cs => needle.isPrefixOf (c :: cs) || occursIn needle cs

/-- Whether `needle` occurs in `s`. -/
def contains (s needle : String) : Bool := occursIn needle.toList s.toList

/-- An occurrence is an infix. -/
theorem occursIn_iff {needle cs : List Char} : occursIn needle cs = true ↔ needle <:+: cs := by
  induction cs with
  | nil => simp [occursIn]
  | cons c cs ih => simp [occursIn, ih, List.infix_cons_iff]

end FederatedCatalog.Text
