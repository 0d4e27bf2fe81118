import FederatedCatalog.Proofs.Json.RoundTrip
import Mathlib.Algebra.GroupWithZero.Nat
import Mathlib.Data.List.Flatten
import Mathlib.Data.String.Basic

/-!
# How much text a value takes

A text can write a value with spaces, with escapes that are not needed and with members that nobody
reads, but it cannot write it in fewer bytes than the value has in strings and punctuation. The
writer comes close to that: it escapes only what has to be escaped. Together this bounds what is
written of a value by the text that the value was read from.

## Main definitions

* `extent`: the least number of bytes for a value, where words and numbers other than natural ones
  count as one byte;
* `Consumes`: a reader takes at least as many bytes as what it reads weighs.

## Main results

* `extent_le_of_parse?`: a text has at least as many bytes as the value that it writes;
* `sum_costOf_le`: the members of an object that are looked up fit into the object;
* `utf8Len_chars_array` and `utf8Len_chars_object`: how many bytes are written.
-/

namespace FederatedCatalog.Json

open String (utf8Len)

/-- The bytes of a text between quotes. -/
def quotedSize (s : String) : Nat := utf8Len (quote s)

/-- The bytes of a list, from the first item to the closing bracket: each item comes with a comma or
bracket. -/
def listSize {α : Type} (weight : α → Nat) (as : List α) : Nat :=
  max 1 (as.map fun a => weight a + 1).sum

/-- The digits of a natural number; any other number counts as one byte. -/
def Number.extent : Number → Nat
  | .integer (.ofNat n) => utf8Len (natChars n)
  | _ => 1

mutual

/-- The least number of bytes that write a value, where `null` and the truth values count as one
byte. -/
def extent : Json → Nat
  | null | bool _ => 1
  | number n => n.extent
  | string s => quotedSize s
  | array vs => 1 + max 1 (itemsExtent vs)
  | object ms => 1 + max 1 (membersExtent ms)

/-- The bytes of the items of an array, each with a comma or bracket. -/
def itemsExtent : List Json → Nat
  | [] => 0
  | v :: vs => extent v + 1 + itemsExtent vs

/-- The bytes of the members of an object, each with a comma or brace. -/
def membersExtent : List (String × Json) → Nat
  | [] => 0
  | (k, v) :: ms => quotedSize k + 1 + extent v + 1 + membersExtent ms

end

/-- The least number of bytes for a member, without its comma or brace. -/
def memberExtent (m : String × Json) : Nat := quotedSize m.1 + 1 + extent m.2

theorem extent_array (vs : List Json) : extent (.array vs) = 1 + listSize extent vs := by
  have hitems : itemsExtent vs = (vs.map fun v => extent v + 1).sum := by
    induction vs with
    | nil => rfl
    | cons v vs ih => rw [itemsExtent, ih, List.map_cons, List.sum_cons]
  rw [extent, hitems, listSize]

theorem extent_object (ms : List (String × Json)) :
    extent (.object ms) = 1 + listSize memberExtent ms := by
  have hmembers : membersExtent ms = (ms.map fun m => memberExtent m + 1).sum := by
    induction ms with
    | nil => rfl
    | cons m ms ih => rw [membersExtent, ih, List.map_cons, List.sum_cons, memberExtent]
  rw [extent, hmembers, listSize]

/-! ### Writing -/

/-- An escape has at most six bytes. -/
theorem utf8Len_escape_le (c : Char) : utf8Len (escape c) ≤ 6 := by
  have hsize := c.utf8Size_le_four
  unfold escape
  split_ifs
  iterate 7 decide
  · have hascii (n : Nat) (h : n < 16) : (hexChar n).utf8Size = 1 := by
      revert n
      decide
    have hhigh := hascii (c.toNat / 16) (by omega)
    have hlow := hascii (c.toNat % 16) (by omega)
    simp only [String.utf8Len_cons, String.utf8Len_nil, hhigh, hlow]
    decide
  · simp only [String.utf8Len_cons, String.utf8Len_nil]
    omega

theorem quotedSize_eq (s : String) :
    quotedSize s = utf8Len (s.toList.flatMap escape) + 2 := by
  have hquote : ('"' : Char).utf8Size = 1 := rfl
  simp only [quotedSize, quote, String.utf8Len_cons, String.utf8Len_append, String.utf8Len_nil,
    hquote]

/-- A text between quotes that is not empty has at least three bytes. -/
theorem three_le_quotedSize {s : String} (h : s ≠ "") : 3 ≤ quotedSize s := by
  rw [quotedSize_eq]
  have hne : utf8Len (s.toList.flatMap escape) ≠ 0 := by
    rw [ne_eq, String.utf8Len_eq_zero, List.flatMap_eq_nil_iff]
    intro hnil
    cases hs : s.toList with
    | nil => exact h (String.toList_eq_nil_iff.mp hs)
    | cons c cs =>
      have hc := hnil c (by rw [hs]; exact List.mem_cons_self)
      unfold escape at hc
      split_ifs at hc
  omega

/-- Of the characters of a text, escaping leaves six bytes for each byte at most. -/
theorem quotedSize_le (s : String) : quotedSize s ≤ 6 * s.utf8ByteSize + 2 := by
  have hflat (cs : List Char) : utf8Len (cs.flatMap escape) ≤ 6 * utf8Len cs := by
    induction cs with
    | nil => exact Nat.le_refl 0
    | cons c cs ih =>
      have hescape := utf8Len_escape_le c
      have hsize := c.utf8Size_pos
      rw [List.flatMap_cons, String.utf8Len_append, String.utf8Len_cons]
      omega
  have hs := hflat s.toList
  rw [String.utf8Len_toList] at hs
  rw [quotedSize_eq]
  omega

/-- A text of which characters were dropped takes no more bytes. -/
theorem quotedSize_le_of_sublist {s t : String} (h : s.toList.Sublist t.toList) :
    quotedSize s ≤ quotedSize t := by
  rw [quotedSize_eq, quotedSize_eq]
  exact Nat.add_le_add_right (String.utf8Len_le_of_sublist (h.flatMap escape)) 2

/-- A character that takes one byte between quotes can be repeated. -/
theorem quotedSize_replicate (n : Nat) {c : Char} (hone : utf8Len (escape c) = 1) :
    quotedSize (String.ofList (List.replicate n c)) = n + 2 := by
  rw [quotedSize_eq, String.toList_ofList]
  induction n with
  | zero => rfl
  | succ n ih =>
    rw [List.replicate_succ, List.flatMap_cons, String.utf8Len_append, hone]
    omega

/-- A digit takes one byte. -/
theorem utf8Len_natChars_le {n k : Nat} (hk : 0 < k) (h : n < 10 ^ k) :
    utf8Len (natChars n) ≤ k := by
  have hlength : (natChars n).length ≤ k := (Nat.length_toDigits_le_iff (by decide) hk).mpr h
  have hdigits (cs : List Char) (hcs : ∀ c ∈ cs, c.isDigit = true) : utf8Len cs = cs.length := by
    induction cs with
    | nil => rfl
    | cons c cs ih =>
      have hc : c.utf8Size = 1 := by
        rw [Char.utf8Size_eq_one_iff]
        have hdigit := hcs c List.mem_cons_self
        simp only [Char.isDigit, Bool.and_eq_true, decide_eq_true_eq] at hdigit
        exact UInt32.le_trans hdigit.2 (by decide)
      rw [String.utf8Len_cons, List.length_cons, hc,
        ih fun d hd => hcs d (List.mem_cons_of_mem c hd)]
  rw [natChars, hdigits _ fun c hc => Nat.isDigit_of_mem_toDigits (by decide) (by decide) hc]
  exact hlength

/-- No number is written without a byte. -/
theorem Number.one_le_extent (n : Number) : 1 ≤ n.extent := by
  cases n with
  | decimal => exact Nat.le_refl 1
  | integer n =>
    cases n with
    | negSucc => exact Nat.le_refl 1
    | ofNat n =>
      obtain ⟨c, cs, hcs, -⟩ := exists_cons_natChars n
      have hc := c.utf8Size_pos
      rw [extent, hcs, String.utf8Len_cons]
      omega

/-- A list takes one byte beside each of its items, and one more if it is empty. -/
theorem utf8Len_listText {β : Type} {write : β → List Char} {close : Char}
    (hclose : close = ']' ∨ close = '\x7d') (bs : List β) :
    utf8Len (listText write close bs) = listSize (fun b => utf8Len (write b)) bs := by
  rw [listSize]
  have hone : close.utf8Size = 1 := by rcases hclose with rfl | rfl <;> rfl
  have hcomma : (',' : Char).utf8Size = 1 := rfl
  have hrest (bs : List β) : utf8Len (bs.flatMap fun b => ',' :: write b) =
      (bs.map fun b => utf8Len (write b) + 1).sum := by
    induction bs with
    | nil => rfl
    | cons b bs ih =>
      simp only [List.flatMap_cons, String.utf8Len_append, String.utf8Len_cons, ih, hcomma,
        List.map_cons, List.sum_cons]
  cases bs with
  | nil => simp [listText, hone]
  | cons b bs =>
    simp only [listText, String.utf8Len_append, String.utf8Len_cons, String.utf8Len_nil, hrest,
      hone, List.map_cons, List.sum_cons]
    omega

theorem utf8Len_chars_array (vs : List Json) :
    utf8Len (chars (.array vs)) = 1 + listSize (fun v => utf8Len (chars v)) vs := by
  have hopen : ('[' : Char).utf8Size = 1 := rfl
  rw [chars_array, String.utf8Len_cons, utf8Len_listText (.inl rfl), hopen, Nat.add_comm]

theorem utf8Len_memberText (m : String × Json) :
    utf8Len (memberText m) = quotedSize m.1 + 1 + utf8Len (chars m.2) := by
  have hcolon : (':' : Char).utf8Size = 1 := rfl
  simp only [memberText, String.utf8Len_append, String.utf8Len_cons, hcolon, quotedSize]
  omega

theorem utf8Len_chars_object (ms : List (String × Json)) :
    utf8Len (chars (.object ms)) = 1 + listSize (fun m => utf8Len (memberText m)) ms := by
  have hopen : ('\x7b' : Char).utf8Size = 1 := rfl
  rw [chars_object, String.utf8Len_cons, utf8Len_listText (.inr rfl), hopen, Nat.add_comm]

/-! ### Reading -/

/-- A reader takes at least as many bytes off the front as what it reads weighs. -/
def Consumes {α : Type} (weight : α → Nat) (reader : List Char → Option (α × List Char)) : Prop :=
  ∀ cs a rest, reader cs = some (a, rest) → weight a + utf8Len rest ≤ utf8Len cs

theorem utf8Len_skipSpace_le (cs : List Char) : utf8Len (skipSpace cs) ≤ utf8Len cs :=
  String.utf8Len_le_of_suffix (List.dropWhile_suffix isSpace)

/-- No escape of one letter is shorter than what the writer puts down for its character. -/
theorem utf8Len_escape_of_simpleEscape? {c d : Char} (h : simpleEscape? c = some d) :
    utf8Len (escape d) ≤ 2 := by
  unfold simpleEscape? at h
  split at h
  iterate 8 cases h; decide
  cases h

/-- A character that may stand for itself is written as it is. -/
theorem escape_eq_self {c : Char} (hquote : c ≠ '"') (hslash : c ≠ '\\')
    (hcontrol : ¬ c.toNat < 0x20) : escape c = [c] := by
  have hne (d : Char) (hd : d.toNat < 0x20) : c ≠ d := by
    rintro rfl
    exact hcontrol hd
  rw [escape, if_neg hquote, if_neg hslash, if_neg (hne '\x08' (by decide)),
    if_neg (hne '\t' (by decide)), if_neg (hne '\n' (by decide)), if_neg (hne '\x0c' (by decide)),
    if_neg (hne '\r' (by decide)), if_neg hcontrol]

/-- The rest of a string takes at least the bytes that the writer puts down for it. -/
theorem le_of_stringBody? {done cs rest : List Char} {s : String}
    (h : stringBody? done cs = some (s, rest)) :
    quotedSize s + utf8Len rest ≤ 1 + utf8Len (done.reverse.flatMap escape) + utf8Len cs := by
  have hslash : ('\\' : Char).utf8Size = 1 := rfl
  have hletter : ('u' : Char).utf8Size = 1 := rfl
  -- `done` grows by one character, and what was read for it must not be shorter than its escape
  have hdone (done : List Char) (c : Char) : utf8Len ((c :: done).reverse.flatMap escape) =
      utf8Len (done.reverse.flatMap escape) + utf8Len (escape c) := by
    simp
  fun_induction stringBody? done cs with
  | case2 done rest =>
    obtain ⟨rfl, rfl⟩ := Prod.mk.inj (Option.some.inj h)
    have hquote : ('"' : Char).utf8Size = 1 := rfl
    rw [quotedSize_eq, String.toList_ofList, String.utf8Len_cons]
    omega
  | case5 done a b c d high _ _ e f g k rest low _ _ ih =>
    -- two escapes of six bytes each for one character
    have hchar := utf8Len_escape_le
      (Char.ofNat (0x10000 + (high - 0xD800) * 0x400 + (low - 0xDC00)))
    have hrest := ih h
    rw [hdone] at hrest
    have ha := a.utf8Size_pos
    have hb := b.utf8Size_pos
    have hc := c.utf8Size_pos
    have hd := d.utf8Size_pos
    simp only [String.utf8Len_cons]
    omega
  | case9 done a b c d rest code _ _ _ ih =>
    have hchar := utf8Len_escape_le (Char.ofNat code)
    have hrest := ih h
    rw [hdone] at hrest
    have ha := a.utf8Size_pos
    have hb := b.utf8Size_pos
    have hc := c.utf8Size_pos
    have hd := d.utf8Size_pos
    simp only [String.utf8Len_cons]
    omega
  | case11 done c rest _ d hescape ih =>
    have hchar := utf8Len_escape_of_simpleEscape? hescape
    have hrest := ih h
    rw [hdone] at hrest
    have hc := c.utf8Size_pos
    simp only [String.utf8Len_cons]
    omega
  | case13 done c rest hquote _ hescape hcontrol ih =>
    have hrest := ih h
    -- a backslash at the very end is no string
    have hplain : c ≠ '\\' := by
      rintro rfl
      cases rest with
      | nil => simp [stringBody?] at h
      | cons d rest => exact hescape d rest rfl rfl
    rw [hdone, escape_eq_self hquote hplain hcontrol] at hrest
    simp only [String.utf8Len_cons, String.utf8Len_nil] at hrest ⊢
    omega
  | case1 | case3 | case4 | case6 | case7 | case8 | case10 | case12 => cases h

theorem consumes_quoted? : Consumes quotedSize quoted? := by
  intro cs s rest h
  unfold quoted? at h
  split at h
  next body =>
    have hbody := le_of_stringBody? h
    have hquote : ('"' : Char).utf8Size = 1 := rfl
    simp only [List.reverse_nil, List.flatMap_nil, String.utf8Len_nil] at hbody
    rw [String.utf8Len_cons]
    omega
  next => cases h

/-! ### Numbers -/

/-- Each digit that is taken off the front takes a byte at least. -/
theorem length_digits_le {cs rest : List Char} {ds : List Nat} (h : digits cs = (ds, rest)) :
    ds.length + utf8Len rest ≤ utf8Len cs ∧ ∀ d ∈ ds, d < 10 := by
  rw [digits, List.span_eq_takeWhile_dropWhile] at h
  obtain ⟨rfl, rfl⟩ := Prod.mk.inj h
  have hlength (run : List Char) : (run.filterMap digit?).length ≤ utf8Len run := by
    induction run with
    | nil => exact Nat.le_refl 0
    | cons c run ih =>
      have hc := c.utf8Size_pos
      rw [List.filterMap_cons, String.utf8Len_cons]
      cases digit? c with
      | none =>
        simp only
        omega
      | some d =>
        simp only [List.length_cons]
        omega
  constructor
  · have hrun := hlength (cs.takeWhile fun c => (digit? c).isSome)
    have hsplit := congrArg utf8Len
      (List.takeWhile_append_dropWhile (p := fun c => (digit? c).isSome) (l := cs))
    rw [String.utf8Len_append] at hsplit
    omega
  · intro d hd
    obtain ⟨c, -, hc⟩ := List.mem_filterMap.mp hd
    rw [digit?] at hc
    split at hc
    next hrange =>
      obtain rfl := Option.some.inj hc
      have hnine : c.toNat ≤ 57 := hrange.2
      have hzero : ('0' : Char).toNat = 48 := rfl
      omega
    next => cases hc

theorem utf8Len_fraction? {cs rest : List Char} {ds : Option (List Nat)}
    (h : fraction? cs = some (ds, rest)) : utf8Len rest ≤ utf8Len cs := by
  unfold fraction? at h
  split at h
  next tail =>
    split at h
    next => cases h
    next hdigits =>
      obtain ⟨-, rfl⟩ := Prod.mk.inj (Option.some.inj h)
      have hrest := (length_digits_le hdigits).1
      rw [String.utf8Len_cons]
      omega
  next =>
    obtain ⟨-, rfl⟩ := Prod.mk.inj (Option.some.inj h)
    exact Nat.le_refl _

theorem utf8Len_signedExponent? {negative : Bool} {cs rest : List Char} {e : Option Int}
    (h : signedExponent? negative cs = some (e, rest)) : utf8Len rest ≤ utf8Len cs := by
  unfold signedExponent? at h
  split at h
  next => cases h
  next hdigits =>
    obtain ⟨-, rfl⟩ := Prod.mk.inj (Option.some.inj h)
    have hrest := (length_digits_le hdigits).1
    omega

theorem utf8Len_exponent? {cs rest : List Char} {e : Option Int}
    (h : exponent? cs = some (e, rest)) : utf8Len rest ≤ utf8Len cs := by
  unfold exponent? at h
  split at h
  iterate 2
    next =>
      split at h
      all_goals
        have hrest := utf8Len_signedExponent? h
        simp only [String.utf8Len_cons] at hrest ⊢
        omega
  next =>
    obtain ⟨-, rfl⟩ := Prod.mk.inj (Option.some.inj h)
    exact Nat.le_refl _

/-- A significand has no more digits than were shifted into it. -/
theorem accumulate_lt {ds : List Nat} {n k : Nat} (hn : n < 10 ^ k) (hds : ∀ d ∈ ds, d < 10)
    (taken : Nat) : (accumulate n taken ds).1 < 10 ^ (k + ds.length) := by
  induction ds generalizing n k taken with
  | nil => exact hn
  | cons d ds ih =>
    obtain ⟨hd, hds⟩ := List.forall_mem_cons.mp hds
    rw [accumulate, List.length_cons]
    split
    · have hnext : n * 10 + d < 10 ^ (k + 1) := by
        rw [Nat.pow_succ]
        omega
      rw [show k + (ds.length + 1) = k + 1 + ds.length by omega]
      exact ih hnext hds (taken + 1)
    · exact Nat.lt_of_lt_of_le hn (Nat.pow_le_pow_right (by decide) (Nat.le_add_right _ _))

/-- A number that is read takes no more bytes than there were digits before its point. -/
theorem extent_le_of_toNumber? {negative : Bool} {whole : List Nat} {fraction : Option (List Nat)}
    {exponent : Option Int} {n : Number} (hwhole : whole ≠ []) (hdigits : ∀ d ∈ whole, d < 10)
    (h : toNumber? negative whole fraction exponent = some n) : n.extent ≤ whole.length := by
  have hone : 0 < whole.length := List.length_pos_of_ne_nil hwhole
  have hless := accumulate_lt (n := 0) (k := 0) (by decide) hdigits 0
  rw [Nat.zero_add] at hless
  rw [toNumber?] at h
  generalize accumulate 0 0 whole = shifted at h hless
  obtain ⟨significand, taken, dropped⟩ := shifted
  dsimp only at h hless
  split at h
  next hplain =>
    obtain rfl := Option.some.inj h
    cases negative with
    | false => exact utf8Len_natChars_le hone hless
    | true =>
      -- a sign stands before a number other than zero only
      cases significand with
      | zero => exact absurd ⟨rfl, rfl⟩ hplain.2.2.2.1
      | succ m => exact hone
  next =>
    split at h
    · obtain rfl := Option.some.inj h
      exact hone
    · cases h

theorem consumes_unsigned? (negative : Bool) : Consumes extent (unsigned? negative) := by
  intro cs v rest h
  unfold unsigned? at h
  split at h
  next => cases h
  next => cases h
  next whole tail hwhole _ hdigits =>
    obtain ⟨⟨fraction, tail₁⟩, hfraction, h⟩ := Option.bind_eq_some_iff.mp h
    obtain ⟨⟨exponent, tail₂⟩, hexponent, h⟩ := Option.bind_eq_some_iff.mp h
    obtain ⟨n, hn, h⟩ := Option.bind_eq_some_iff.mp h
    obtain ⟨rfl, rfl⟩ := Prod.mk.inj (Option.some.inj h)
    -- the digits before the point pay for the number
    obtain ⟨hfirst, hvalues⟩ := length_digits_le hdigits
    have hnumber := extent_le_of_toNumber? hwhole hvalues hn
    have hsecond := utf8Len_fraction? hfraction
    have hthird := utf8Len_exponent? hexponent
    rw [extent]
    omega

theorem consumes_number? : Consumes extent number? := by
  intro cs v rest h
  unfold number? at h
  split at h
  next tail =>
    have htail := consumes_unsigned? true tail v rest h
    rw [String.utf8Len_cons]
    omega
  next => exact consumes_unsigned? false cs v rest h

/-! ### Values -/

theorem consumes_scalar? : Consumes extent scalar? := by
  have hword (c : Char) (front rest : List Char) :
      1 + utf8Len rest ≤ utf8Len (c :: (front ++ rest)) := by
    have hc := c.utf8Size_pos
    rw [String.utf8Len_cons, String.utf8Len_append]
    omega
  intro cs v rest h
  unfold scalar? at h
  split at h
  next tail =>
    obtain ⟨rfl, rfl⟩ := Prod.mk.inj (Option.some.inj h)
    exact hword 'n' ['u', 'l', 'l'] tail
  next tail =>
    obtain ⟨rfl, rfl⟩ := Prod.mk.inj (Option.some.inj h)
    exact hword 't' ['r', 'u', 'e'] tail
  next tail =>
    obtain ⟨rfl, rfl⟩ := Prod.mk.inj (Option.some.inj h)
    exact hword 'f' ['a', 'l', 's', 'e'] tail
  next tail =>
    obtain ⟨⟨s, rest'⟩, hbody, h⟩ := Option.map_eq_some_iff.mp h
    obtain ⟨rfl, rfl⟩ := Prod.mk.inj h
    have hquoted : quoted? ('"' :: tail) = some (s, rest') := hbody
    rw [extent]
    exact consumes_quoted? _ s rest' hquoted
  next => exact consumes_number? cs v rest h

section Items

variable {α : Type} {item : List Char → Option (α × List Char)} {weight : α → Nat}
  (hitem : Consumes weight item)
include hitem

/-- Items take one byte beside their own. -/
theorem le_of_items? (close : Char) {bound : Nat} {done as : List α} {cs rest : List Char}
    (h : items? item close bound done cs = some (as, rest)) :
    ∃ new, as = done.reverse ++ new ∧ listSize weight new + utf8Len rest ≤ utf8Len cs := by
  induction bound generalizing done cs with
  | zero => cases h
  | succ bound ih =>
    rw [items?] at h
    split at h
    next => cases h
    next a tail ha =>
      have hfirst := hitem cs a tail ha
      have hskip := utf8Len_skipSpace_le tail
      split at h
      next => cases h
      next c tail' htail =>
        have hmark := c.utf8Size_pos
        rw [htail, String.utf8Len_cons] at hskip
        split at h
        · -- a comma: the other items come behind it
          obtain ⟨new, rfl, hnew⟩ := ih h
          refine ⟨a :: new, by simp, ?_⟩
          simp only [listSize, List.map_cons, List.sum_cons] at hnew ⊢
          omega
        · split at h
          · obtain ⟨rfl, rfl⟩ := Prod.mk.inj (Option.some.inj h)
            refine ⟨[a], by simp, ?_⟩
            simp only [listSize, List.map_cons, List.map_nil, List.sum_cons, List.sum_nil]
            omega
          · cases h

/-- A list takes one byte beside each of its items, and one more if it is empty. -/
theorem consumes_list? (close : Char) (bound : Nat) :
    Consumes (listSize weight) (list? item close bound) := by
  intro cs as rest h
  have hskip := utf8Len_skipSpace_le cs
  rw [list?] at h
  split at h
  next => cases h
  next c tail htail =>
    rw [htail] at hskip
    split at h
    · obtain ⟨rfl, rfl⟩ := Prod.mk.inj (Option.some.inj h)
      have hmark := c.utf8Size_pos
      simp only [String.utf8Len_cons, listSize, List.map_nil, List.sum_nil] at hskip ⊢
      omega
    · obtain ⟨new, rfl, hnew⟩ := le_of_items? hitem close h
      exact Nat.le_trans hnew hskip

end Items

theorem consumes_member? {value : List Char → Option (Json × List Char)}
    (hvalue : Consumes extent value) : Consumes memberExtent (member? value) := by
  intro cs m rest h
  obtain ⟨⟨key, tail⟩, hkey, h⟩ := Option.bind_eq_some_iff.mp h
  have hskip := utf8Len_skipSpace_le cs
  have hquoted := consumes_quoted? (skipSpace cs) key tail hkey
  have hskip' := utf8Len_skipSpace_le tail
  simp only at h
  split at h
  next tail' htail =>
    obtain ⟨⟨v, rest'⟩, hv, h⟩ := Option.bind_eq_some_iff.mp h
    obtain ⟨rfl, rfl⟩ := Prod.mk.inj (Option.some.inj h)
    have hcolon : (':' : Char).utf8Size = 1 := rfl
    have hlast := hvalue tail' v rest' hv
    rw [htail, String.utf8Len_cons, hcolon] at hskip'
    simp only [memberExtent]
    omega
  next => cases h

/-- A value takes at least its extent. -/
theorem consumes_value? (bound depth : Nat) : Consumes extent (value? bound depth) := by
  induction depth with
  | zero =>
    intro cs v rest h
    have hskip := utf8Len_skipSpace_le cs
    rw [value?] at h
    split at h
    next => cases h
    next => cases h
    next => exact Nat.le_trans (consumes_scalar? _ v rest h) hskip
  | succ depth ih =>
    intro cs v rest h
    have hskip := utf8Len_skipSpace_le cs
    rw [value?] at h
    split at h
    next tail htail =>
      obtain ⟨⟨vs, rest'⟩, hlist, h⟩ := Option.map_eq_some_iff.mp h
      obtain ⟨rfl, rfl⟩ := Prod.mk.inj h
      have hopen : ('[' : Char).utf8Size = 1 := rfl
      have hitems := consumes_list? ih ']' bound tail vs rest' hlist
      rw [htail, String.utf8Len_cons, hopen] at hskip
      rw [extent_array]
      omega
    next tail htail =>
      obtain ⟨⟨ms, rest'⟩, hlist, h⟩ := Option.map_eq_some_iff.mp h
      obtain ⟨rfl, rfl⟩ := Prod.mk.inj h
      have hopen : ('\x7b' : Char).utf8Size = 1 := rfl
      have hmembers :=
        consumes_list? (consumes_member? ih) '\x7d' bound tail ms rest' hlist
      rw [htail, String.utf8Len_cons, hopen] at hskip
      rw [extent_object]
      omega
    next => exact Nat.le_trans (consumes_scalar? _ v rest h) hskip

/-- A text has at least as many bytes as the value that it writes. -/
theorem extent_le_of_parse? {text : String} {v : Json} (h : parse? text = some v) :
    extent v ≤ text.utf8ByteSize := by
  rw [parse?, parseChars?] at h
  split at h
  next found rest hvalue =>
    split at h
    · obtain rfl := Option.some.inj h
      have hle := consumes_value? _ _ text.toList found rest hvalue
      rw [String.utf8Len_toList] at hle
      omega
    · cases h
  next => cases h

/-! ### Members of an object -/

/-- The bytes that the member with a key takes, with its comma or brace; none if it is missing. -/
def costOf (key : String) : Option Json → Nat
  | none => 0
  | some v => memberExtent (key, v) + 1

private theorem sum_le_of_eq_off {f g : String → Nat} {k : String} {n : Nat} {keys : List String}
    (hkeys : keys.Nodup) (hother : ∀ key, key ≠ k → f key = g key) (hk : f k ≤ n) :
    (keys.map f).sum ≤ n + (keys.map g).sum := by
  induction keys with
  | nil => exact Nat.zero_le _
  | cons key keys ih =>
    obtain ⟨hnew, hrest⟩ := List.nodup_cons.mp hkeys
    rw [List.map_cons, List.map_cons, List.sum_cons, List.sum_cons]
    by_cases heq : key = k
    · -- none of the other keys is that one
      subst heq
      have hsame : keys.map f = keys.map g :=
        List.map_congr_left fun key' hmem => hother key' fun h => hnew (h ▸ hmem)
      rw [hsame]
      omega
    · have htail := ih hrest
      rw [hother key heq]
      omega

private theorem sum_lookup_le {keys : List String} (hkeys : keys.Nodup)
    (ms : List (String × Json)) :
    (keys.map fun key => costOf key (ms.lookup key)).sum ≤
      (ms.map fun m => memberExtent m + 1).sum := by
  induction ms with
  | nil => simp [costOf]
  | cons m ms ih =>
    obtain ⟨k, v⟩ := m
    rw [List.map_cons, List.sum_cons]
    refine Nat.le_trans (sum_le_of_eq_off (k := k) hkeys ?_ ?_) (Nat.add_le_add_left ih _)
    · intro key hkey
      rw [List.lookup_cons, beq_false_of_ne hkey]
    · rw [List.lookup_cons, beq_self_eq_true]
      exact Nat.le_refl _

/-- The members of a value that are looked up fit into the value. -/
theorem sum_costOf_le {keys : List String} (hkeys : keys.Nodup) (v : Json) :
    1 + (keys.map fun key => costOf key (v.get? key)).sum ≤ extent v := by
  have hnone (v : Json) (h : ∀ key, v.get? key = none) :
      (keys.map fun key => costOf key (v.get? key)).sum = 0 := by
    simp [h, costOf]
  cases v with
  | object ms =>
    have hsum := sum_lookup_le hkeys ms.reverse
    rw [List.map_reverse, List.sum_reverse] at hsum
    simp only [get?, extent_object, listSize]
    omega
  | null | bool => rw [hnone _ fun _ => rfl, extent]
  | number n =>
    rw [hnone _ fun _ => rfl, extent]
    exact n.one_le_extent
  | array vs =>
    rw [hnone _ fun _ => rfl, extent_array]
    omega
  | string s =>
    rw [hnone _ fun _ => rfl, extent, quotedSize_eq]
    omega

end FederatedCatalog.Json
