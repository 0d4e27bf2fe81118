import FederatedCatalog.Json.Parser
import FederatedCatalog.Json.Printer
import Mathlib.Algebra.Group.Int.Defs
import Mathlib.Algebra.Group.Nat.Defs
import Mathlib.Data.List.Basic
import Mathlib.Data.List.TakeDrop

/-!
# Strings and integers read back

What the writer puts down for a string or an integer is what the reader takes off the front of a
text, and nothing more.

## Main results

* `stringBody?_quote`: a written string reads back, whatever its characters and whatever follows;
* `number?_intChars`: a written integer of 64 bits reads back when a `Delimiter` follows.
-/

namespace FederatedCatalog.Json

open Text (hexDigit?)

/-! ### Strings -/

private theorem hexDigit?_hexChar : ∀ n < 16, hexDigit? (hexChar n) = some n := by decide

/-- The four digits of an escaped control character read back as its code point. -/
private theorem hex4?_control {n : Nat} (h : n < 0x20) :
    hex4? '0' '0' (hexChar (n / 16)) (hexChar (n % 16)) = some n := by
  have hzero : hexDigit? '0' = some 0 := rfl
  have hhigh := hexDigit?_hexChar (n / 16) (by omega)
  have hlow := hexDigit?_hexChar (n % 16) (by omega)
  simp only [hex4?, hzero, hhigh, hlow, Option.bind_eq_bind, Option.bind_some, Option.pure_def]
  congr 1
  omega

/-- A written character reads back, and the reader goes on after it. -/
theorem stringBody?_escape (done : List Char) (c : Char) (rest : List Char) :
    stringBody? done (escape c ++ rest) = stringBody? (c :: done) rest := by
  unfold escape
  split_ifs with hquote hslash hb ht hn hf hr hcontrol
  -- the escapes of one letter
  iterate 7 subst c; simp [stringBody?, simpleEscape?]
  · -- a control character is written as its code point
    have hlt : c.toNat < 0xD800 := by omega
    simp only [List.cons_append, List.nil_append, stringBody?, hex4?_control hcontrol]
    rw [if_neg (by omega), if_neg (by omega), Char.ofNat_toNat]
  · -- any other character stands for itself
    rw [List.singleton_append, stringBody?, if_neg hcontrol]
    · exact hquote
    · rintro a b d e rest' rfl; exact absurd rfl hslash
    · rintro a rest' rfl; exact absurd rfl hslash

/-- Written characters read back up to the closing quote. -/
theorem stringBody?_flatMap (done cs rest : List Char) :
    stringBody? done (cs.flatMap escape ++ '"' :: rest) =
      some (String.ofList (done.reverse ++ cs), rest) := by
  induction cs generalizing done with
  | nil => simp [stringBody?]
  | cons c cs ih =>
    rw [List.flatMap_cons, List.append_assoc, stringBody?_escape, ih]
    simp

/-- What follows the opening quote of a written string reads back as the string. -/
theorem stringBody?_quote (s : String) (rest : List Char) :
    stringBody? [] (s.toList.flatMap escape ++ '"' :: rest) = some (s, rest) := by
  rw [stringBody?_flatMap, List.reverse_nil, List.nil_append, String.ofList_toList]

/-- A written string reads back. -/
theorem quoted?_quote (s : String) (rest : List Char) :
    quoted? (quote s ++ rest) = some (s, rest) := by
  rw [quote, List.cons_append, List.append_assoc, List.singleton_append, quoted?,
    stringBody?_quote]

/-! ### Integers -/

/-- `rest` is empty or opens with a comma or a closing bracket, so it cannot extend a number. -/
def Delimiter (rest : List Char) : Prop := ∀ c ∈ rest.head?, c = ',' ∨ c = ']' ∨ c = '\x7d'

theorem delimiter_nil : Delimiter [] := by simp [Delimiter]

theorem delimiter_comma (rest : List Char) : Delimiter (',' :: rest) := by simp [Delimiter]

theorem delimiter_bracket (rest : List Char) : Delimiter (']' :: rest) := by simp [Delimiter]

theorem delimiter_brace (rest : List Char) : Delimiter ('\x7d' :: rest) := by simp [Delimiter]

private theorem digit?_of_isDigit {c : Char} (h : c.isDigit = true) :
    digit? c = some (c.toNat - '0'.toNat) := by
  have hrange : '0' ≤ c ∧ c ≤ '9' := by
    simpa [Char.isDigit, Char.le_def, UInt32.le_iff_toNat_le] using h
  rw [digit?, if_pos hrange]

private theorem digit?_head_of_delimiter {rest : List Char} (h : Delimiter rest) :
    ∀ c ∈ rest.head?, digit? c = none := by
  intro c hc
  rcases h c hc with rfl | rfl | rfl <;> rfl

/-- Digits before a delimiter are taken off the front, all of them and nothing else. -/
private theorem digits_append {run rest : List Char} (hrun : ∀ c ∈ run, c.isDigit = true)
    (hrest : Delimiter rest) :
    digits (run ++ rest) = (run.map fun c => c.toNat - '0'.toNat, rest) := by
  have hkeep : ∀ c ∈ run, (digit? c).isSome = true := by
    intro c hc
    rw [digit?_of_isDigit (hrun c hc), Option.isSome_some]
  -- the run ends where the delimiter stands
  have htake : rest.takeWhile (fun c => (digit? c).isSome) = [] := by
    cases rest with
    | nil => rfl
    | cons c rest =>
      rw [List.takeWhile_cons_of_neg (by simp [digit?_head_of_delimiter hrest c rfl])]
  have hdrop : rest.dropWhile (fun c => (digit? c).isSome) = rest := by
    cases rest with
    | nil => rfl
    | cons c rest =>
      rw [List.dropWhile_cons_of_neg (by simp [digit?_head_of_delimiter hrest c rfl])]
  rw [digits, List.span_eq_takeWhile_dropWhile, List.takeWhile_append_of_pos hkeep,
    List.dropWhile_append_of_pos hkeep, htake, hdrop, List.append_nil]
  refine Prod.ext ?_ rfl
  induction run with
  | nil => rfl
  | cons c run ih => simp_all [digit?_of_isDigit]

/-- The values of the digits that write a number. -/
def digitValues (n : Nat) : List Nat := (Nat.toDigits 10 n).map fun c => c.toNat - '0'.toNat

/-- The digits of a number are worth the number. -/
private theorem foldl_digitValues (n : Nat) :
    (digitValues n).foldl (fun n d => n * 10 + d) 0 = n := by
  rw [digitValues, List.foldl_map]
  simpa only [Nat.ofDigitChars, Nat.mul_comm] using Nat.ofDigitChars_ten_toDigits (n := n)

/-- No number but zero opens with a zero. -/
private theorem eq_zero_of_head?_digitValues {n : Nat} (h : (digitValues n).head? = some 0) :
    n = 0 := by
  induction n using Nat.strongRecOn with
  | ind n ih =>
    rw [digitValues, Nat.toDigits_eq_if (by omega)] at h
    split at h
    next hn => simpa [Nat.toNat_digitChar_sub_48_of_lt_ten hn] using h
    next hn =>
      -- the first digit is that of the tenth part, which is not zero
      have hne : digitValues (n / 10) ≠ [] := by simp [digitValues]
      rw [List.map_append, ← digitValues, List.head?_append_of_ne_nil _ hne] at h
      have := ih (n / 10) (by omega) h
      omega

private theorem le_foldl_digits (ds : List Nat) (n : Nat) :
    n ≤ ds.foldl (fun n d => n * 10 + d) n := by
  induction ds generalizing n with
  | nil => exact Nat.le_refl n
  | cons d ds ih => exact Nat.le_trans (by omega) (ih (n * 10 + d))

/-- Digits that fit the significand are all shifted into it. -/
private theorem accumulate_of_lt {ds : List Nat} {n : Nat} (taken : Nat)
    (h : ds.foldl (fun n d => n * 10 + d) n < UInt64.size) :
    accumulate n taken ds = (ds.foldl (fun n d => n * 10 + d) n, taken + ds.length, 0) := by
  induction ds generalizing n taken with
  | nil => rfl
  | cons d ds ih =>
    rw [List.foldl_cons] at h
    have hd : n * 10 + d < UInt64.size := Nat.lt_of_le_of_lt (le_foldl_digits ds _) h
    rw [accumulate, if_pos hd, ih (taken + 1) h, List.foldl_cons, List.length_cons,
      Nat.add_right_comm, Nat.add_assoc]

/-- A written natural number is read digit by digit, whatever its magnitude and the sign that stood
before it. -/
theorem unsigned?_natChars (negative : Bool) (n : Nat) {rest : List Char} (hrest : Delimiter rest) :
    unsigned? negative (natChars n ++ rest) =
      (toNumber? negative (digitValues n) none none).map fun m => (.number m, rest) := by
  have hdigits : digits (natChars n ++ rest) = (digitValues n, rest) :=
    digits_append (fun c hc => Nat.isDigit_of_mem_toDigits (by decide) (by decide) hc) hrest
  have hfraction : fraction? rest = some (none, rest) := by
    rw [fraction?.eq_def]
    split
    next => rcases hrest '.' rfl with h | h | h <;> simp at h
    next => rfl
  have hexponent : exponent? rest = some (none, rest) := by
    rw [exponent?.eq_def]
    split
    next => rcases hrest 'e' rfl with h | h | h <;> simp at h
    next => rcases hrest 'E' rfl with h | h | h <;> simp at h
    next => rfl
  rw [unsigned?, hdigits]
  split
  next hnil => simp [digitValues] at hnil
  next d ds _ hlead =>
    -- a second digit after a zero at the front is never written
    have hws : digitValues n = 0 :: d :: ds := congrArg Prod.fst hlead
    obtain rfl := eq_zero_of_head?_digitValues (by rw [hws]; rfl)
    simp [digitValues] at hws
  next ws rest' _ _ hws =>
    obtain ⟨rfl, rfl⟩ := Prod.mk.inj hws
    simp only [hfraction, hexponent, Option.bind_eq_bind, Option.bind_some]
    cases toNumber? negative (digitValues n) none none <;> rfl

/-- The digits of an integer of 64 bits make the integer. -/
private theorem toNumber?_digitValues {negative : Bool} {n : Nat} (hn : n < UInt64.size)
    (hneg : negative = true → n ≠ 0 ∧ n ≤ 2 ^ 63) :
    toNumber? negative (digitValues n) none none =
      some (.integer (if negative then - Int.ofNat n else Int.ofNat n)) := by
  have hvalue := foldl_digitValues n
  have haccumulate := accumulate_of_lt (n := 0) 0 (hvalue.symm ▸ hn)
  rw [hvalue] at haccumulate
  have hzero : ¬ (negative = true ∧ n = 0) := fun h => (hneg h.1).1 h.2
  have hrange : ¬ (negative = true ∧ 0x8000000000000000 < n) :=
    fun h => Nat.not_lt_of_le (hneg h.1).2 h.2
  simp only [toNumber?, haccumulate]
  rw [if_pos ⟨trivial, trivial, trivial, hzero, hrange⟩]

theorem exists_cons_natChars (n : Nat) : ∃ c cs, natChars n = c :: cs ∧ c.isDigit = true := by
  obtain ⟨c, cs, hcs⟩ := List.exists_cons_of_ne_nil (Nat.toDigits_ne_nil (n := n) (b := 10))
  refine ⟨c, cs, hcs, ?_⟩
  apply Nat.isDigit_of_mem_toDigits (b := 10) (n := n) (by decide) (by decide)
  rw [hcs]
  exact List.mem_cons_self

/-- A written integer opens with a digit or a minus sign. -/
theorem exists_cons_intChars (n : Int) :
    ∃ c cs, intChars n = c :: cs ∧ (c.isDigit = true ∨ c = '-') := by
  cases n with
  | ofNat n =>
    obtain ⟨c, cs, hcs, hc⟩ := exists_cons_natChars n
    exact ⟨c, cs, hcs, .inl hc⟩
  | negSucc n => exact ⟨'-', natChars (n + 1), rfl, .inr rfl⟩

/-- A written natural number is read digit by digit. -/
theorem number?_natChars (n : Nat) {rest : List Char} (hrest : Delimiter rest) :
    number? (natChars n ++ rest) =
      (toNumber? false (digitValues n) none none).map fun m => (.number m, rest) := by
  obtain ⟨c, cs, hcs, hc⟩ := exists_cons_natChars n
  have hsign : number? (natChars n ++ rest) = unsigned? false (natChars n ++ rest) := by
    rw [hcs, List.cons_append, number?]
    intro rest' hminus
    obtain ⟨rfl, -⟩ := List.cons.inj hminus
    simp at hc
  rw [hsign, unsigned?_natChars false n hrest]

/-- An integer of 64 bits that was written reads back. -/
theorem number?_intChars {n : Int} {rest : List Char} (hlow : -2 ^ 63 ≤ n) (hhigh : n < 2 ^ 64)
    (hrest : Delimiter rest) :
    number? (intChars n ++ rest) = some (.number (.integer n), rest) := by
  cases n with
  | ofNat n =>
    have hsize : n < UInt64.size := Int.ofNat_lt.mp hhigh
    rw [intChars, number?_natChars n hrest, toNumber?_digitValues hsize (by simp), Option.map_some]
    rfl
  | negSucc n =>
    have hsize : n + 1 < UInt64.size := by rw [UInt64.size]; omega
    rw [intChars, List.cons_append, number?, unsigned?_natChars true (n + 1) hrest,
      toNumber?_digitValues hsize (by omega), Option.map_some]
    rfl

end FederatedCatalog.Json
