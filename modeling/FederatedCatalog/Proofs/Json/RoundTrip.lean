import FederatedCatalog.Proofs.Json.Token

/-!
# Written values read back

The reader inverts the writer on every `Plain` value: one that nests no deeper than the reader goes
and whose numbers are integers of 64 bits. Every frame that a server or a client writes is such a
value. The proof follows the reader: one lemma for scalars, one for lists of items between
brackets, and an induction on the depth.

## Main results

* `value?_chars`: a written value is taken off the front of a text when a `Delimiter` follows;
* `parse?_render`: the text of a value is read as the value.
-/

namespace FederatedCatalog.Json

/-- The value nests at most `depth` deep and its numbers are integers of 64 bits. -/
def Plain : Nat → Json → Prop
  | _, null | _, bool _ | _, string _ => True
  | _, number (.integer n) => -2 ^ 63 ≤ n ∧ n < 2 ^ 64
  | _, number (.decimal ..) => False
  | 0, array _ | 0, object _ => False
  | depth + 1, array vs => ∀ v ∈ vs, Plain depth v
  | depth + 1, object ms => ∀ m ∈ ms, Plain depth m.2

/-- A natural number of 64 bits is plain at any depth. -/
theorem plain_ofNat (depth : Nat) {n : Nat} (h : n < 2 ^ 64) : Plain depth (ofNat n) := by
  have hplain : -2 ^ 63 ≤ (n : Int) ∧ (n : Int) < 2 ^ 64 := by omega
  cases depth <;> exact hplain

/-! ### Spaces -/

theorem skipSpace_cons {c : Char} (h : isSpace c = false) (cs : List Char) :
    skipSpace (c :: cs) = c :: cs := by
  rw [skipSpace, List.dropWhile_cons_of_neg (by simp [h])]

private theorem isSpace_of_isDigit {c : Char} (h : c.isDigit = true) : isSpace c = false := by
  have hne : ∀ d, d.isDigit = false → c ≠ d := by
    rintro d hd rfl
    simp [h] at hd
  simp [isSpace, hne]

/-- `cs` opens with a character that is no space and closes nothing. -/
def OpensValue (cs : List Char) : Prop :=
  ∃ c tail, cs = c :: tail ∧ isSpace c = false ∧ c ≠ ']' ∧ c ≠ '\x7d'

/-- A written plain value opens like a value. -/
theorem opensValue_chars {depth : Nat} {v : Json} (h : Plain depth v) : OpensValue (chars v) := by
  cases v with
  | null => exact ⟨'n', _, by rw [chars], by decide⟩
  | bool b => cases b <;> exact ⟨_, _, by rw [chars], by decide⟩
  | string s => exact ⟨'"', _, by rw [chars, quote], by decide⟩
  | array vs => cases vs <;> exact ⟨'[', _, by rw [chars], by decide⟩
  | object ms =>
    cases ms with
    | nil => exact ⟨'\x7b', _, by rw [chars], by decide⟩
    | cons m ms => exact ⟨'\x7b', _, by rw [chars], by decide⟩
  | number n =>
    cases n with
    | decimal => cases depth <;> exact h.elim
    | integer n =>
      obtain ⟨c, cs, hcs, hc⟩ := exists_cons_intChars n
      refine ⟨c, cs, by rw [chars, Number.chars, hcs], ?_⟩
      rcases hc with hc | rfl
      · exact ⟨isSpace_of_isDigit hc, by rintro rfl; simp at hc, by rintro rfl; simp at hc⟩
      · decide

/-! ### Scalars -/

/-- A value that opens no bracket is read as a scalar. -/
theorem value?_eq_scalar? {bound depth : Nat} {c : Char} {cs : List Char}
    (hspace : isSpace c = false) (harray : c ≠ '[') (hobject : c ≠ '\x7b') :
    value? bound depth (c :: cs) = scalar? (c :: cs) := by
  cases depth with
  | zero =>
    rw [value?, skipSpace_cons hspace]
    split <;> simp_all
  | succ depth =>
    rw [value?, skipSpace_cons hspace]
    split <;> simp_all

/-- A text that opens with a digit or a minus sign is read as a number. -/
private theorem scalar?_eq_number? {c : Char} {cs : List Char} (h : c.isDigit = true ∨ c = '-') :
    scalar? (c :: cs) = number? (c :: cs) := by
  have hne : ∀ d, d.isDigit = false → d ≠ '-' → c ≠ d := by
    rintro d hd hminus rfl
    simp_all
  rw [scalar?.eq_def]
  split
  next heq => exact absurd (List.cons.inj heq).1 (hne _ (by decide) (by decide))
  next heq => exact absurd (List.cons.inj heq).1 (hne _ (by decide) (by decide))
  next heq => exact absurd (List.cons.inj heq).1 (hne _ (by decide) (by decide))
  next heq => exact absurd (List.cons.inj heq).1 (hne _ (by decide) (by decide))
  next => rfl

/-- A written integer is read as a number, at any depth. -/
theorem value?_intChars {bound depth : Nat} (n : Int) (rest : List Char) :
    value? bound depth (intChars n ++ rest) = number? (intChars n ++ rest) := by
  obtain ⟨c, cs, hcs, hc⟩ := exists_cons_intChars n
  have hspace : isSpace c = false := by
    rcases hc with hc | rfl
    · exact isSpace_of_isDigit hc
    · rfl
  have harray : c ≠ '[' := by
    rintro rfl
    simp at hc
  have hobject : c ≠ '\x7b' := by
    rintro rfl
    simp at hc
  rw [hcs, List.cons_append, value?_eq_scalar? hspace harray hobject, scalar?_eq_number? hc]

/-! ### Lists of items -/

section Items

variable {α β : Type} {item : List Char → Option (α × List Char)} {write : β → List Char}
  {read : β → α} {close : Char}

private theorem skipSpace_close (hclose : close = ']' ∨ close = '\x7d') (rest : List Char) :
    skipSpace (close :: rest) = close :: rest := by
  rcases hclose with rfl | rfl <;> exact skipSpace_cons (by decide) rest

/-- Items behind commas are read up to the closing bracket, when each of them is read in front of a
delimiter. -/
theorem items?_append (hclose : close = ']' ∨ close = '\x7d') {bound : Nat} {b : β} {bs : List β}
    (hitem : ∀ d ∈ b :: bs, ∀ rest, Delimiter rest → item (write d ++ rest) = some (read d, rest))
    (hbound : bs.length < bound) (done : List α) (rest : List Char) :
    items? item close bound done
        (write b ++ (bs.flatMap (fun d => ',' :: write d) ++ close :: rest)) =
      some (done.reverse ++ (b :: bs).map read, rest) := by
  induction bs generalizing b bound done with
  | nil =>
    obtain ⟨bound, rfl⟩ := Nat.exists_eq_add_one_of_ne_zero (Nat.ne_of_gt hbound)
    have hdelimiter : Delimiter (close :: rest) := by
      rcases hclose with rfl | rfl
      · exact delimiter_bracket rest
      · exact delimiter_brace rest
    have hcomma : close ≠ ',' := by rcases hclose with rfl | rfl <;> decide
    simp only [List.flatMap_nil, List.nil_append, items?]
    rw [hitem b List.mem_cons_self _ hdelimiter]
    simp only [skipSpace_close hclose, if_neg hcomma, if_true, List.reverse_cons, List.map_cons,
      List.map_nil]
  | cons d ds ih =>
    obtain ⟨bound, rfl⟩ :=
      Nat.exists_eq_add_one_of_ne_zero (Nat.ne_of_gt (Nat.zero_lt_of_lt hbound))
    -- the comma behind the first item is what ends it
    have htail := ih (fun k hk => hitem k (List.mem_cons_of_mem b hk))
      (Nat.lt_of_succ_lt_succ hbound) (read b :: done)
    simp only [List.flatMap_cons, List.cons_append, List.append_assoc, items?]
    rw [hitem b List.mem_cons_self _ (delimiter_comma _)]
    simp only [skipSpace_cons (by decide : isSpace ',' = false), if_true]
    rw [htail, List.reverse_cons, List.append_assoc, List.singleton_append, List.map_cons,
      List.map_cons, List.map_cons]

/-- The items of a list, with commas between them, up to the closing bracket. -/
def listText (write : β → List Char) (close : Char) : List β → List Char
  | [] => [close]
  | b :: bs => write b ++ (bs.flatMap (fun d => ',' :: write d) ++ [close])

/-- Each item of a list is shorter than the list. -/
theorem length_write_lt (write : β → List Char) (close : Char) {b : β} {bs : List β} (h : b ∈ bs) :
    (write b).length < (listText write close bs).length := by
  cases bs with
  | nil => simp at h
  | cons d ds =>
    have hlater : b ∈ ds → (write b).length ≤ (ds.flatMap fun k => ',' :: write k).length := by
      intro hb
      have hmem := List.mem_map_of_mem (f := fun k => ',' :: write k) hb
      have hle := (List.sublist_flatten_of_mem hmem).length_le
      rw [← List.flatMap_def, List.length_cons] at hle
      exact Nat.le_of_succ_le hle
    rw [listText, List.length_append, List.length_append, List.length_singleton]
    rcases List.mem_cons.mp h with rfl | hb
    · omega
    · have := hlater hb
      omega

/-- A list has no more items than characters. -/
theorem length_le_listText (write : β → List Char) (close : Char) (bs : List β) :
    bs.length ≤ (listText write close bs).length := by
  cases bs with
  | nil => exact Nat.zero_le _
  | cons b bs =>
    have hcommas : bs.length ≤ (bs.flatMap fun d => ',' :: write d).length := by
      induction bs with
      | nil => exact Nat.le_refl 0
      | cons d ds ih =>
        rw [List.flatMap_cons, List.length_append, List.length_cons, List.length_cons]
        omega
    rw [listText, List.length_append, List.length_append, List.length_cons, List.length_singleton]
    omega

/-- A list is read when each of its items is read in front of a delimiter. -/
theorem list?_listText (hclose : close = ']' ∨ close = '\x7d') {bound : Nat} {bs : List β}
    (hopen : ∀ b ∈ bs, OpensValue (write b))
    (hitem : ∀ b ∈ bs, ∀ rest, Delimiter rest → item (write b ++ rest) = some (read b, rest))
    (hbound : (listText write close bs).length ≤ bound) (rest : List Char) :
    list? item close bound (listText write close bs ++ rest) = some (bs.map read, rest) := by
  cases bs with
  | nil => simp only [listText, List.singleton_append, list?, skipSpace_close hclose, if_true,
      List.map_nil]
  | cons b bs =>
    have hcount : bs.length < bound := by
      have := length_le_listText write close (b :: bs)
      rw [List.length_cons] at this
      omega
    -- an item does not open like a closing bracket, so the list is not taken for an empty one
    have hitems := items?_append hclose hitem hcount [] rest
    obtain ⟨c, cs, hcs, hspace, hbracket, hbrace⟩ := hopen b List.mem_cons_self
    have hne : c ≠ close := by rcases hclose with rfl | rfl <;> assumption
    simp only [listText, List.append_assoc, List.singleton_append]
    rw [hcs, List.cons_append] at hitems ⊢
    simp only [list?, skipSpace_cons hspace, if_neg hne]
    exact hitems

/-- A list of one item is read or refused as its item is. -/
theorem list?_singleton (hclose : close = ']' ∨ close = '\x7d') {b : β} {a? : Option α}
    (hopen : OpensValue (write b)) (rest : List Char)
    (hitem : item (write b ++ close :: rest) = a?.map fun a => (a, close :: rest)) (bound : Nat) :
    list? item close (bound + 1) (listText write close [b] ++ rest) =
      a?.map fun a => ([a], rest) := by
  obtain ⟨c, cs, hcs, hspace, hbracket, hbrace⟩ := hopen
  have hne : c ≠ close := by rcases hclose with rfl | rfl <;> assumption
  have hcomma : close ≠ ',' := by rcases hclose with rfl | rfl <;> decide
  simp only [listText, List.flatMap_nil, List.nil_append, List.append_assoc, List.singleton_append]
  rw [hcs, List.cons_append] at hitem ⊢
  simp only [list?, skipSpace_cons hspace, if_neg hne, items?, hitem]
  cases a? with
  | none => rfl
  | some a => simp only [Option.map_some, skipSpace_close hclose, if_neg hcomma, if_true,
      List.reverse_singleton]

end Items

/-- An array is written as the list of its values. -/
theorem chars_array (vs : List Json) : chars (.array vs) = '[' :: listText chars ']' vs := by
  have hitems : ∀ vs, itemChars vs = vs.flatMap fun v => ',' :: chars v := by
    intro vs
    induction vs with
    | nil => rw [itemChars, List.flatMap_nil]
    | cons v vs ih => rw [itemChars, ih, List.flatMap_cons, List.cons_append]
  cases vs with
  | nil => rw [chars, listText]
  | cons v vs => rw [chars, hitems, listText, List.append_assoc]

/-- The characters of a member of an object. -/
def memberText (m : String × Json) : List Char := quote m.1 ++ ':' :: chars m.2

/-- An object is written as the list of its members. -/
theorem chars_object (ms : List (String × Json)) :
    chars (.object ms) = '\x7b' :: listText memberText '\x7d' ms := by
  have hmembers : ∀ ms, memberChars ms = ms.flatMap fun m => ',' :: memberText m := by
    intro ms
    induction ms with
    | nil => rw [memberChars, List.flatMap_nil]
    | cons m ms ih => rw [memberChars, ih, List.flatMap_cons, memberText, List.cons_append,
        List.append_assoc, List.cons_append]
  cases ms with
  | nil => rw [chars, listText]
  | cons m ms => rw [chars, hmembers, listText, memberText, List.append_assoc, List.append_assoc,
      List.cons_append]

theorem opensValue_memberText (m : String × Json) : OpensValue (memberText m) :=
  ⟨'"', _, by rw [memberText, quote, List.cons_append], by decide⟩

/-- A written member is read as its value is. -/
theorem member?_memberText (value : List Char → Option (Json × List Char)) (m : String × Json)
    (rest : List Char) :
    member? value (memberText m ++ rest) =
      (value (chars m.2 ++ rest)).map fun (v, rest) => ((m.1, v), rest) := by
  have hskip : ∀ tail, skipSpace (quote m.1 ++ tail) = quote m.1 ++ tail := by
    intro tail
    rw [quote, List.cons_append, skipSpace_cons (by decide)]
  rw [memberText, List.append_assoc, List.cons_append, member?, hskip, quoted?_quote]
  simp only [Option.bind_eq_bind, Option.bind_some,
    skipSpace_cons (by decide : isSpace ':' = false)]
  cases value (chars m.2 ++ rest) <;> rfl

/-! ### Values -/

/-- A written scalar reads back at any depth. -/
private theorem value?_scalar {bound depth : Nat} {v : Json} {rest : List Char} (hv : Plain 0 v)
    (hrest : Delimiter rest) : value? bound depth (chars v ++ rest) = some (v, rest) := by
  cases v with
  | null =>
    rw [chars]
    exact value?_eq_scalar? (by decide) (by decide) (by decide)
  | bool b =>
    cases b <;> rw [chars] <;> exact value?_eq_scalar? (by decide) (by decide) (by decide)
  | string s =>
    have hread : scalar? (quote s ++ rest) = some (.string s, rest) := by
      rw [quote, List.cons_append, List.append_assoc, List.singleton_append, scalar?,
        stringBody?_quote, Option.map_some]
    rw [quote, List.cons_append] at hread
    rw [chars, quote, List.cons_append, value?_eq_scalar? (by decide) (by decide) (by decide),
      hread]
  | number n =>
    cases n with
    | integer n => exact (value?_intChars n rest).trans (number?_intChars hv.1 hv.2 hrest)
    | decimal => exact hv.elim
  | array => exact hv.elim
  | object => exact hv.elim

/-- A written value reads back when a delimiter follows and the bound covers its items. -/
theorem value?_chars {bound depth : Nat} {v : Json} {rest : List Char} (hv : Plain depth v)
    (hbound : (chars v).length ≤ bound) (hrest : Delimiter rest) :
    value? bound depth (chars v ++ rest) = some (v, rest) := by
  -- the reader counts the depth down, so the induction is on the depth and not on the value
  induction depth generalizing v rest with
  | zero => exact value?_scalar hv hrest
  | succ depth ih =>
    cases v with
    | array vs =>
      rw [chars_array, List.length_cons] at hbound
      have hitem : ∀ w ∈ vs, ∀ rest, Delimiter rest →
          value? bound depth (chars w ++ rest) = some (id w, rest) := by
        intro w hw rest hrest
        have := length_write_lt chars ']' hw
        exact ih (hv w hw) (by omega) hrest
      have hlist := list?_listText (.inl rfl) (fun w hw => opensValue_chars (hv w hw)) hitem
        (Nat.le_of_succ_le hbound) rest
      rw [chars_array, List.cons_append, value?, skipSpace_cons (by decide)]
      simp only [hlist, List.map_id, Option.map_some]
    | object ms =>
      rw [chars_object, List.length_cons] at hbound
      have hitem : ∀ m ∈ ms, ∀ rest, Delimiter rest →
          member? (value? bound depth) (memberText m ++ rest) = some (id m, rest) := by
        intro m hm rest hrest
        have hlt := length_write_lt memberText '\x7d' hm
        rw [memberText, List.length_append, List.length_cons] at hlt
        rw [member?_memberText, ih (hv m hm) (by omega) hrest]
        rfl
      have hlist := list?_listText (.inr rfl) (fun m _ => opensValue_memberText m) hitem
        (Nat.le_of_succ_le hbound) rest
      rw [chars_object, List.cons_append, value?, skipSpace_cons (by decide)]
      simp only [hlist, List.map_id, Option.map_some]
    | null => exact value?_scalar trivial hrest
    | bool => exact value?_scalar trivial hrest
    | string => exact value?_scalar trivial hrest
    | number n =>
      cases n with
      | integer => exact value?_scalar hv hrest
      | decimal => exact hv.elim

/-- The text of a plain value is read as the value. -/
theorem parse?_render {v : Json} (h : Plain maxDepth v) : parse? v.render = some v := by
  have hread := value?_chars h (Nat.le_succ (chars v).length) delimiter_nil
  rw [List.append_nil] at hread
  rw [parse?, render, String.toList_ofList, parseChars?, hread]
  rfl

/-- An object whose one member is a natural number parses to such an object, unless the number is
too large for a number of the reader. -/
theorem parse?_render_ofNat (key : String) (n : Nat) :
    parse? (Json.object [(key, ofNat n)]).render =
      (toNumber? false (digitValues n) none none).map fun m => .object [(key, .number m)] := by
  have hmember (bound depth : Nat) {rest : List Char} (hrest : Delimiter rest) :
      member? (value? bound depth) (memberText (key, ofNat n) ++ rest) =
        ((toNumber? false (digitValues n) none none).map fun m => (key, .number m)).map
          fun m => (m, rest) := by
    have hvalue : value? bound depth (chars (ofNat n) ++ rest) = number? (natChars n ++ rest) :=
      value?_intChars n rest
    rw [member?_memberText, hvalue, number?_natChars n hrest, Option.map_map, Option.map_map]
    rfl
  have hlist := fun bound => list?_singleton (.inr rfl) (opensValue_memberText (key, ofNat n)) []
    (hmember (bound + 1) 126 (delimiter_brace [])) bound
  simp only [List.append_nil] at hlist
  rw [parse?, render, String.toList_ofList, parseChars?, chars_object, maxDepth, value?,
    skipSpace_cons (by decide)]
  simp only [hlist]
  cases toNumber? false (digitValues n) none none <;> rfl

end FederatedCatalog.Json
