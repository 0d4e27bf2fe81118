/-!
# Blank characters and cleaned text

The Unicode `White_Space` property, trimming by it, and the cleaning that every text supplied by a
client goes through: U+0000 is dropped wherever it stands, then blanks are trimmed at both ends.
The main statements say that a cleaned text holds no U+0000 and neither begins nor ends with a
blank, and that cleaning such a text changes nothing.
-/

namespace FederatedCatalog.Text

/-- The characters of the Unicode property `White_Space`. -/
def isBlank (c : Char) : Bool :=
  ('\t' ≤ c && c ≤ '\r') || c == ' ' || c == '\u0085' || c == '\u00a0' || c == '\u1680' ||
    ('\u2000' ≤ c && c ≤ '\u200a') || c == '\u2028' || c == '\u2029' || c == '\u202f' ||
    c == '\u205f' || c == '\u3000'

/-- Drop the blanks at the front. -/
def trimStart (cs : List Char) : List Char := cs.dropWhile isBlank

/-- Drop the blanks at the end. -/
def trimEnd (cs : List Char) : List Char := (cs.reverse.dropWhile isBlank).reverse

/-- Drop the blanks at both ends. -/
def trim (cs : List Char) : List Char := trimEnd (trimStart cs)

/-- The characters of a text without U+0000 and without blanks at its ends. -/
def cleanChars (cs : List Char) : List Char := trim (cs.filter (· != '\x00'))

/-- A text without U+0000 and without blanks at its ends. -/
def clean (s : String) : String := String.ofList (cleanChars s.toList)

/-- No character is U+0000 and neither end is a blank. -/
def IsClean (s : String) : Prop :=
  '\x00' ∉ s.toList ∧ (∀ c ∈ s.toList.head?, isBlank c = false) ∧
    ∀ c ∈ s.toList.getLast?, isBlank c = false

/-- Where dropping stops, no blank stands. -/
theorem isBlank_head?_trimStart {cs : List Char} {c : Char} (h : c ∈ (trimStart cs).head?) :
    isBlank c = false := by
  have := List.head?_dropWhile_not isBlank cs
  rw [Option.mem_def, trimStart] at h
  rw [h] at this
  simpa using this

/-- Trimming the end leaves no blank there. -/
theorem isBlank_getLast?_trimEnd {cs : List Char} {c : Char} (h : c ∈ (trimEnd cs).getLast?) :
    isBlank c = false := by
  rw [trimEnd, List.getLast?_reverse] at h
  exact isBlank_head?_trimStart h

/-- What trimming the end leaves is at the front of what was there. -/
theorem trimEnd_isPrefix (cs : List Char) : trimEnd cs <+: cs := by
  rw [trimEnd, ← List.reverse_suffix, List.reverse_reverse]
  exact List.dropWhile_suffix isBlank

/-- Trimming the end keeps the first character if it keeps any. -/
theorem head?_trimEnd {cs : List Char} {c : Char} (h : c ∈ (trimEnd cs).head?) : c ∈ cs.head? := by
  obtain ⟨rest, hrest⟩ := trimEnd_isPrefix cs
  rw [Option.mem_def] at h ⊢
  rw [← hrest, List.head?_append, h, Option.some_or]

/-- Dropping blanks at the front does nothing where none stands. -/
theorem trimStart_eq_self {cs : List Char} (h : ∀ c ∈ cs.head?, isBlank c = false) :
    trimStart cs = cs := by
  cases cs with
  | nil => rfl
  | cons c cs => rw [trimStart, List.dropWhile_cons_of_neg (by simpa using h c rfl)]

/-- Dropping blanks at the end does nothing where none stands. -/
theorem trimEnd_eq_self {cs : List Char} (h : ∀ c ∈ cs.getLast?, isBlank c = false) :
    trimEnd cs = cs := by
  have : trimStart cs.reverse = cs.reverse := trimStart_eq_self (by simpa using h)
  rw [trimEnd, ← trimStart, this, List.reverse_reverse]

/-- A cleaned text is clean. -/
theorem isClean_clean (s : String) : IsClean (clean s) := by
  refine ⟨fun h => ?_, fun c h => ?_, fun c h => ?_⟩
  · rw [clean, String.toList_ofList, cleanChars, trim] at h
    have := (List.dropWhile_suffix isBlank).subset ((trimEnd_isPrefix _).subset h)
    simp at this
  · rw [clean, String.toList_ofList, cleanChars, trim] at h
    exact isBlank_head?_trimStart (head?_trimEnd h)
  · rw [clean, String.toList_ofList, cleanChars, trim] at h
    exact isBlank_getLast?_trimEnd h

/-- Cleaning changes nothing in a clean text. -/
theorem clean_eq_self {s : String} (h : IsClean s) : clean s = s := by
  obtain ⟨hnul, hhead, hlast⟩ := h
  have : s.toList.filter (· != '\x00') = s.toList := by
    rw [List.filter_eq_self]
    rintro c hc
    simpa using fun heq : c = '\x00' => hnul (heq ▸ hc)
  rw [clean, cleanChars, this, trim, trimStart_eq_self hhead, trimEnd_eq_self hlast,
    String.ofList_toList]

/-- A character that is neither U+0000 nor blank can be repeated. -/
theorem isClean_replicate (n : Nat) {c : Char} (hnul : c ≠ '\x00') (hblank : isBlank c = false) :
    IsClean (String.ofList (List.replicate n c)) := by
  refine ⟨fun h => ?_, fun d hd => ?_, fun d hd => ?_⟩ <;> rw [String.toList_ofList] at *
  · exact hnul (List.eq_of_mem_replicate h).symm
  · rwa [List.eq_of_mem_replicate (List.mem_of_head? hd)]
  · rwa [List.eq_of_mem_replicate (List.mem_of_getLast? hd)]

/-- Cleaning twice is cleaning once. -/
theorem clean_clean (s : String) : clean (clean s) = clean s := clean_eq_self (isClean_clean s)

/-- Whether a text is clean is decided by cleaning it. -/
instance (s : String) : Decidable (IsClean s) :=
  decidable_of_iff (clean s = s) ⟨fun h => h ▸ isClean_clean s, clean_eq_self⟩

end FederatedCatalog.Text
