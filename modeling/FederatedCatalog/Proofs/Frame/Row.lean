import FederatedCatalog.Proofs.Frame.Codec

/-!
# Rows of frames

Whatever bytes a connection brings, they begin with some row of frames: texts of an allowed length,
each behind its length. Of these rows one is the longest, and all others are fronts of it, since no
bytes are the frames of two texts.

## Main definitions

* `Frame.Leads`: bytes begin with the frames of texts;
* `Frame.Longest`: a row of frames in front that cannot be continued.

## Main results

* `Frame.rest_of_read` and `Frame.read_eq_none_iff`: a frame that was read stood in front, and
  without one the connection is at its end;
* `Frame.encode_append_inj`: bytes begin with one frame at most;
* `Frame.exists_longest` and `Frame.Longest.unique`: there is one longest row;
* `Frame.Longest.exists_cons` and `Frame.longest_nil_of_read`: it starts with what is read first.
-/

namespace FederatedCatalog.Frame

variable {s t : Source} {text : String} {texts others : List String} {bytes behind : ByteArray}

/-! ### The first frame -/

/-- A frame that was read stood in front, and what came behind it is left. -/
theorem rest_of_read (h : read s = (.ok (some text), t)) :
    text.utf8ByteSize ≤ maxLength ∧ s.rest = encode text ++ t.rest ∧ t.ending = s.ending := by
  have hfirst : (read s).1 = .ok (some text) := congrArg Prod.fst h
  obtain ⟨hlength, behind, hrest⟩ := exists_append_of_readPayload (readPayload_of_read hfirst)
  obtain ⟨t', hread, hbehind, hending⟩ := read_encode hrest hlength
  -- both readings are the same one
  obtain rfl : t = t' := congrArg Prod.snd (h.symm.trans hread)
  exact ⟨hlength, hbehind ▸ hrest, hending⟩

/-- Bytes begin with one frame at most. -/
theorem encode_append_inj {a b : String} {x y : ByteArray} (ha : a.utf8ByteSize ≤ maxLength)
    (hb : b.utf8ByteSize ≤ maxLength) (h : encode a ++ x = encode b ++ y) : a = b ∧ x = y := by
  -- a connection with these bytes gives one reading, which is both of them
  obtain ⟨s, hs, hx, -⟩ := read_encode (Source.rest_ofBytes (encode a ++ x)) ha
  obtain ⟨t, ht, hy, -⟩ := read_encode ((Source.rest_ofBytes _).trans h) hb
  obtain ⟨htext, rfl⟩ := Prod.mk.inj (hs.symm.trans ht)
  exact ⟨Option.some.inj (Except.ok.inj htext), hx.symm.trans hy⟩

/-- The frame of a text alone is read as the text. -/
theorem read_ofBytes_encode (hlength : text.utf8ByteSize ≤ maxLength) :
    (read (.ofBytes (encode text))).1 = .ok (some text) := by
  obtain ⟨t, hread, -⟩ :=
    read_encode ((Source.rest_ofBytes _).trans ByteArray.append_empty.symm) hlength
  rw [hread]

/-- A connection is at its end when it is closed and has fewer than four bytes left. -/
theorem read_eq_none_iff : (read s).1 = .ok none ↔ s.ending = .closed ∧ s.rest.size < 4 := by
  refine ⟨fun h => ?_, fun ⟨hclosed, hsize⟩ => read_of_size_lt hsize hclosed⟩
  obtain ⟨t, hheader, -⟩ := readExactly_eq s 4
  rw [s.size_rest]
  rw [read, readPayload, hheader] at h
  by_cases hfour : 4 ≤ s.remaining
  · -- the length is read, so only a payload or a failure can come of it
    rw [if_pos hfour] at h
    dsimp only at h
    split at h
    next payload source _ => cases htext : textOf payload <;> simp [htext, Except.map] at h
    next source hpayload =>
      split at hpayload
      · cases hpayload
      · generalize readExactly t _ = exactly at hpayload
        rcases exactly with ⟨_ | _, _⟩ <;> cases hpayload
    next => cases h
  · rw [if_neg hfour] at h
    cases hending : s.ending with
    | closed => exact ⟨rfl, Nat.lt_of_not_le hfour⟩
    | silent => simp [hending, atEnd] at h

/-! ### Rows in front -/

/-- The bytes begin with the frames of these texts, none of which is too long. -/
def Leads (texts : List String) (bytes : ByteArray) : Prop :=
  (∀ text ∈ texts, text.utf8ByteSize ≤ maxLength) ∧ ∃ behind, bytes = encodeAll texts ++ behind

theorem leads_nil (bytes : ByteArray) : Leads [] bytes :=
  ⟨nofun, bytes, ByteArray.empty_append.symm⟩

theorem leads_cons :
    Leads (text :: texts) bytes ↔
      text.utf8ByteSize ≤ maxLength ∧ ∃ behind, bytes = encode text ++ behind ∧
        Leads texts behind := by
  constructor
  · rintro ⟨hlengths, behind, rfl⟩
    obtain ⟨hlength, hlengths⟩ := List.forall_mem_cons.mp hlengths
    exact ⟨hlength, encodeAll texts ++ behind, ByteArray.append_assoc, hlengths, behind, rfl⟩
  · rintro ⟨hlength, _, rfl, hlengths, behind, rfl⟩
    exact ⟨List.forall_mem_cons.mpr ⟨hlength, hlengths⟩, behind, ByteArray.append_assoc.symm⟩

/-- The bytes begin with the frames of these texts, and no other row of frames goes on longer: each
one is a front of this. -/
structure Longest (texts : List String) (bytes : ByteArray) : Prop where
  leads : Leads texts bytes
  isPrefix : ∀ others, Leads others bytes → others <+: texts

/-- Only one row is the longest. -/
theorem Longest.unique (h : Longest texts bytes) (hothers : Longest others bytes) :
    texts = others :=
  -- each of the two is a front of the other
  (hothers.isPrefix texts h.leads).eq_of_length_le (h.isPrefix others hothers.leads).length_le

/-- Where no frame is in front, the longest row is empty. -/
theorem longest_nil (h : ∀ text, text.utf8ByteSize ≤ maxLength → ∀ behind,
    bytes ≠ encode text ++ behind) : Longest [] bytes := by
  refine ⟨leads_nil bytes, fun others hothers => ?_⟩
  cases others with
  | nil => exact List.prefix_refl []
  | cons text others =>
    obtain ⟨hlength, behind, hbytes, -⟩ := leads_cons.mp hothers
    exact absurd hbytes (h text hlength behind)

/-- With one more frame in front, the longest row is longer by its text. -/
theorem Longest.cons (hlength : text.utf8ByteSize ≤ maxLength) (h : Longest texts behind) :
    Longest (text :: texts) (encode text ++ behind) := by
  refine ⟨leads_cons.mpr ⟨hlength, behind, rfl, h.leads⟩, fun others hothers => ?_⟩
  cases others with
  | nil => exact List.nil_prefix
  | cons other others =>
    obtain ⟨hother, behind', hbytes, hleads⟩ := leads_cons.mp hothers
    obtain ⟨rfl, rfl⟩ := encode_append_inj hlength hother hbytes
    exact (List.prefix_cons_inj text).mpr (h.isPrefix others hleads)

/-- Nothing comes behind the frames of texts. -/
theorem longest_encodeAll (htexts : ∀ text ∈ texts, text.utf8ByteSize ≤ maxLength) :
    Longest texts (encodeAll texts) := by
  induction texts with
  | nil =>
    -- no bytes are too few for a length
    refine longest_nil fun text _ behind hbytes => ?_
    have hsize : 0 = 4 + text.utf8ByteSize + behind.size := by
      rw [← size_encode, ← ByteArray.size_append, ← hbytes]
      rfl
    omega
  | cons text texts ih =>
    obtain ⟨hlength, hlengths⟩ := List.forall_mem_cons.mp htexts
    exact (ih hlengths).cons hlength

/-- All bytes have a longest row of frames in front. -/
theorem exists_longest (bytes : ByteArray) : ∃ texts, Longest texts bytes := by
  -- each frame in front takes at least the four bytes of its length
  induction hn : bytes.size using Nat.strongRecOn generalizing bytes with
  | ind n ih =>
    by_cases hframe : ∃ text, text.utf8ByteSize ≤ maxLength ∧
        ∃ behind, bytes = encode text ++ behind
    · obtain ⟨text, hlength, behind, rfl⟩ := hframe
      have hsize : behind.size < n := by
        rw [ByteArray.size_append, size_encode] at hn
        omega
      obtain ⟨texts, htexts⟩ := ih behind.size hsize behind rfl
      exact ⟨text :: texts, htexts.cons hlength⟩
    · refine ⟨[], longest_nil fun text hlength behind hbytes => hframe ?_⟩
      exact ⟨text, hlength, behind, hbytes⟩

/-- The longest row starts with the frame that is read first, and goes on as the longest row of what
is left. -/
theorem Longest.exists_cons (h : Longest texts s.rest) (hread : read s = (.ok (some text), t)) :
    ∃ later, texts = text :: later ∧ Longest later t.rest := by
  obtain ⟨hlength, hrest, -⟩ := rest_of_read hread
  obtain ⟨later, hlater⟩ := exists_longest t.rest
  rw [hrest] at h
  exact ⟨later, h.unique (hlater.cons hlength), hlater⟩

/-- Where no frame is read, the longest row is empty. -/
theorem longest_nil_of_read (hread : ∀ text, (read s).1 ≠ .ok (some text)) :
    Longest [] s.rest := by
  refine longest_nil fun text hlength behind hrest => hread text ?_
  obtain ⟨t, hfirst, -⟩ := read_encode hrest hlength
  exact congrArg Prod.fst hfirst

theorem Longest.eq_nil (h : Longest texts s.rest) (hread : ∀ text, (read s).1 ≠ .ok (some text)) :
    texts = [] :=
  h.unique (longest_nil_of_read hread)

end FederatedCatalog.Frame
