import FederatedCatalog.Frame.Stream
import Mathlib.Algebra.Group.Nat.Defs

/-!
# Bytes written and read

What is written to a connection is appended to what was written before, as far as there is room, and
a reader whose bytes begin with it reads it back and leaves the rest, in whatever pieces the bytes
arrive. This holds of frames and of streamed bytes alike, so both can follow one another on a
connection.

## Main definitions

* `Source.Skips`: a source after some bytes were taken off the front;
* `Frame.ofPayload`: the frame of any bytes, whether they are a text or not;
* `Sink.Fits`: a writing end with room for some number of bytes.

## Main results

* `Source.gather_eq`: what a reading gets together depends on the bytes that are left, and not on
  the pieces in which they arrive;
* `Frame.readPayload_append` and `Frame.exists_append_of_readPayload`: a payload is read exactly
  when its frame is in front;
* `Frame.read_encode` and `Frame.readBytes_append`: frames and streamed bytes are read back;
* `Sink.write_append`: writing in pieces is writing at once;
* `Frame.write_eq` and `Frame.writeFile_of_file`: what is written is the frame, or the bytes of a
  file as far as they were announced.
-/

namespace FederatedCatalog

/-! ### Reading -/

/-- Bytes that are asked for beyond the end are not there. -/
theorem extract_min (bytes : ByteArray) (i n : Nat) :
    bytes.extract i (min n bytes.size) = bytes.extract i n := by
  calc bytes.extract i (min n bytes.size)
      = (bytes.extract 0 bytes.size).extract i n := by
        rw [ByteArray.extract_extract, Nat.zero_add, Nat.zero_add]
    _ = bytes.extract i n := by rw [ByteArray.extract_zero_size]

/-- A front that reaches into the second piece holds the first one. -/
theorem extract_append_of_le {a b : ByteArray} {n : Nat} (h : a.size ≤ n) :
    (a ++ b).extract 0 n = a ++ b.extract 0 (n - a.size) := by
  rw [ByteArray.extract_append, ← extract_min, Nat.min_eq_right h, ByteArray.extract_zero_size,
    Nat.zero_sub]

/-- A front that ends in the first piece is one of that. -/
theorem extract_append_of_ge {a b : ByteArray} {n : Nat} (h : n ≤ a.size) :
    (a ++ b).extract 0 n = a.extract 0 n := by
  have hnone : b.extract (0 - a.size) (n - a.size) = .empty := by
    rw [ByteArray.extract_eq_empty_iff]
    omega
  rw [ByteArray.extract_append, hnone, ByteArray.append_empty]

namespace Source

variable {s : Source} {a b : ByteArray} {k n : Nat}

theorem size_rest (s : Source) : s.rest.size = s.remaining := by
  rw [rest, ByteArray.size_extract, Nat.min_self, remaining]

theorem rest_ofBytes (bytes : ByteArray) : (ofBytes bytes).rest = bytes :=
  ByteArray.extract_zero_size

/-- The source `t` is `s` after `n` bytes were taken off the front, or all of them if there are
fewer. -/
structure Skips (s : Source) (n : Nat) (t : Source) : Prop where
  rest_eq : t.rest = s.rest.extract n s.rest.size
  ending_eq : t.ending = s.ending

/-- What is left behind bytes that were taken off the front. -/
theorem Skips.rest_of_append {t : Source} (h : s.Skips a.size t) (hrest : s.rest = a ++ b) :
    t.rest = b := by
  rw [h.rest_eq, hrest]
  exact ByteArray.extract_append_eq_right rfl ByteArray.size_append

/-- A single read takes the bytes that it hands out off the front. -/
theorem skips_advance (s : Source) (k : Nat) :
    s.bytes.extract s.position (s.position + k) = s.rest.extract 0 k ∧ s.Skips k (s.advance k) := by
  refine ⟨?_, ?_, rfl⟩
  · rw [rest, ByteArray.extract_extract, extract_min, Nat.add_zero]
  · have hend : min (s.position + (s.bytes.size - s.position)) s.bytes.size = s.bytes.size := by
      omega
    rw [size_rest, remaining, rest, rest, ByteArray.extract_extract, hend]
    rfl

/-- A single read hands out no more than is asked for, and no more than is left. -/
theorem handout_le (s : Source) (want : Nat) : s.handout want ≤ min want s.remaining := by
  rw [handout]
  omega

/-- A single read that asks for something hands out nothing only at the end. -/
theorem handout_eq_zero_iff {want : Nat} : s.handout want = 0 ↔ want = 0 ∨ s.remaining = 0 := by
  rw [handout]
  omega

theorem remaining_advance (s : Source) (k : Nat) :
    (s.advance k).remaining = s.remaining - k := by
  rw [remaining, remaining, advance, Nat.sub_add_eq]

/-- What a single read hands out and the front of what is left then are the front of what was left
before. -/
theorem extract_append_advance (h : k ≤ n) :
    s.bytes.extract s.position (s.position + k) ++ (s.advance k).rest.extract 0 (n - k) =
      s.rest.extract 0 n := by
  obtain ⟨hpiece, hskips⟩ := s.skips_advance k
  rw [hpiece, hskips.rest_eq, ByteArray.extract_extract, extract_min, Nat.add_zero,
    Nat.add_sub_cancel' h, ← ByteArray.extract_eq_extract_append_extract k (Nat.zero_le k) h]

/-- Reading until `n` bytes have come takes the first `n` bytes, or all if there are fewer, however
the bytes are cut into pieces. -/
theorem gather_eq (limit n : Nat) (got : ByteArray) (s : Source) :
    ∃ t, gather limit n got s = (⟨got ++ s.rest.extract 0 n, n - s.remaining⟩, t) ∧
      s.Skips n t := by
  -- each single read takes at least one byte, so the induction is on the bytes still wanted
  induction n using Nat.strongRecOn generalizing got s with
  | ind n ih =>
    have hsize := s.size_rest
    unfold gather
    by_cases hzero : n = 0
    · subst hzero
      refine ⟨s, ?_, ByteArray.extract_zero_size.symm, rfl⟩
      rw [if_pos rfl, ByteArray.extract_same, ByteArray.append_empty, Nat.zero_sub]
    rw [if_neg hzero]
    by_cases hleft : s.remaining = 0
    · -- at the end nothing is handed out, and all that is wanted stays missing
      have hhandout : s.handout (min n (limit + 1)) = 0 := handout_eq_zero_iff.mpr (.inr hleft)
      obtain hempty := ByteArray.size_eq_zero_iff.mp (hsize.trans hleft)
      have hnone (i j : Nat) : s.rest.extract i j = .empty := by
        rw [ByteArray.extract_eq_empty_iff, hempty, ByteArray.size_empty]
        omega
      refine ⟨s, ?_, hempty.trans (hnone _ _).symm, rfl⟩
      simp only [hhandout, ↓reduceIte, hleft, hnone, ByteArray.append_empty, Nat.sub_zero]
    · have hne : s.handout (min n (limit + 1)) ≠ 0 := by
        rw [Ne, handout_eq_zero_iff]
        omega
      have hle := s.handout_le (min n (limit + 1))
      generalize s.handout (min n (limit + 1)) = k at hne hle
      simp only [if_neg hne]
      -- what this read hands out is the front of what is left, and the others come next
      obtain ⟨-, hskips⟩ := s.skips_advance k
      obtain ⟨t, hgather, ht⟩ := ih (n - k) (by omega)
        (got ++ s.bytes.extract s.position (s.position + k)) (s.advance k)
      have hmissing : n - k - (s.remaining - k) = n - s.remaining := by omega
      refine ⟨t, ?_, ?_, ht.ending_eq.trans hskips.ending_eq⟩
      · rw [hgather, ByteArray.append_assoc, extract_append_advance (by omega),
          remaining_advance, hmissing]
      · rw [ht.rest_eq, hskips.rest_eq, ByteArray.extract_extract, ByteArray.size_extract]
        congr 1 <;> omega

end Source

namespace Frame

variable {s : Source} {a b payload : ByteArray} {text : String} {n : Nat}

/-- Exactly `n` bytes are read when there are as many. -/
theorem readExactly_eq (s : Source) (n : Nat) :
    ∃ t, readExactly s n =
      (if n ≤ s.remaining then .ok (s.rest.extract 0 n)
        else .error (atEnd s.ending (.io .unexpectedEof)), t) ∧ s.Skips n t := by
  obtain ⟨t, hgather, ht⟩ := s.gather_eq n n .empty
  refine ⟨t, ?_, ht⟩
  rw [readExactly, hgather]
  simp only [Nat.sub_eq_zero_iff_le, ByteArray.empty_append, ht.ending_eq]

/-- As many bytes as were announced are read when there are as many. -/
theorem readBytes_eq (s : Source) (n : Nat) :
    ∃ t, readBytes s n =
      (if n ≤ s.remaining then .ok (s.rest.extract 0 n)
        else .error (atEnd s.ending (.streamEnded (n - s.remaining) n)), t) ∧ s.Skips n t := by
  obtain ⟨t, hgather, ht⟩ := s.gather_eq (chunkSize - 1) n .empty
  refine ⟨t, ?_, ht⟩
  rw [readBytes, hgather]
  simp only [Nat.sub_eq_zero_iff_le, ByteArray.empty_append, ht.ending_eq]

/-- Bytes in front are as many as are left, or fewer. -/
theorem size_le_remaining (h : s.rest = a ++ b) : a.size ≤ s.remaining := by
  rw [← s.size_rest, h, ByteArray.size_append]
  exact Nat.le_add_right _ _

/-- Bytes in front are read exactly. -/
theorem readExactly_append (h : s.rest = a ++ b) :
    ∃ t, readExactly s a.size = (.ok a, t) ∧ t.rest = b ∧ t.ending = s.ending := by
  obtain ⟨t, hread, ht⟩ := readExactly_eq s a.size
  refine ⟨t, ?_, ht.rest_of_append h, ht.ending_eq⟩
  rw [hread, if_pos (size_le_remaining h), h, ByteArray.extract_append_eq_left rfl]

theorem readBytes_append (h : s.rest = a ++ b) :
    ∃ t, readBytes s a.size = (.ok a, t) ∧ t.rest = b := by
  obtain ⟨t, hread, ht⟩ := readBytes_eq s a.size
  refine ⟨t, ?_, ht.rest_of_append h⟩
  rw [hread, if_pos (size_le_remaining h), h, ByteArray.extract_append_eq_left rfl]

/-! ### Lengths -/

/-- Four bytes write every length below `2 ^ 32`. -/
theorem readLength_lengthBytes {n : Nat} (h : n < 2 ^ 32) : readLength (lengthBytes n) = n := by
  have hbytes : readLength (lengthBytes n) =
      (((0 * 256 + n / 2 ^ 24 % 256) * 256 + n / 2 ^ 16 % 256) * 256 + n / 2 ^ 8 % 256) * 256 +
        n % 256 := by
    simp [readLength, lengthBytes, Nat.shiftRight_eq_div_pow]
  rw [hbytes]
  omega

/-- Four bytes are those of the length that they write. -/
theorem lengthBytes_readLength {header : ByteArray} (h : header.size = 4) :
    lengthBytes (readLength header) = header := by
  obtain ⟨⟨bytes⟩⟩ := header
  obtain ⟨b₁, b₂, b₃, b₄, rfl⟩ : ∃ b₁ b₂ b₃ b₄, bytes = [b₁, b₂, b₃, b₄] := by
    match bytes, h with
    | [b₁, b₂, b₃, b₄], _ => exact ⟨b₁, b₂, b₃, b₄, rfl⟩
  have hlength : readLength ⟨⟨[b₁, b₂, b₃, b₄]⟩⟩ =
      (((0 * 256 + b₁.toNat) * 256 + b₂.toNat) * 256 + b₃.toNat) * 256 + b₄.toNat := rfl
  have h₁ := b₁.toNat_lt
  have h₂ := b₂.toNat_lt
  have h₃ := b₃.toNat_lt
  have h₄ := b₄.toNat_lt
  have hdigit {n : Nat} {b : UInt8} (hn : n % 256 = b.toNat) : UInt8.ofNat n = b := by
    rw [← UInt8.toNat_inj, UInt8.toNat_ofNat']
    exact hn
  simp only [hlength, lengthBytes, Nat.shiftRight_eq_div_pow]
  congr
  all_goals exact hdigit (by omega)

/-! ### Frames -/

/-- The frame of a payload: its length in four bytes, and the payload. -/
def ofPayload (payload : ByteArray) : ByteArray := lengthBytes payload.size ++ payload

/-- Behind an allowed length, as many bytes are read as it says. -/
theorem readPayload_of_length (h : s.rest = lengthBytes n ++ b) (hn : n ≤ maxLength) :
    ∃ t, readPayload s = ((readExactly t n).1.map some, (readExactly t n).2) ∧ t.rest = b ∧
      t.ending = s.ending := by
  obtain ⟨t, hheader, ht⟩ := readExactly_append h
  have hfour : readExactly s 4 = (.ok (lengthBytes n), t) := hheader
  have hlength : readLength (lengthBytes n) = n := by
    apply readLength_lengthBytes
    exact Nat.lt_of_le_of_lt hn (by decide)
  refine ⟨t, ?_, ht⟩
  rw [readPayload, hfour]
  simp only [hlength, if_neg (Nat.not_lt.mpr hn)]

/-- A payload that is not too long is read from its frame, and what follows is left. -/
theorem readPayload_append (h : s.rest = ofPayload payload ++ b)
    (hlength : payload.size ≤ maxLength) :
    ∃ t, readPayload s = (.ok (some payload), t) ∧ t.rest = b ∧ t.ending = s.ending := by
  rw [ofPayload, ByteArray.append_assoc] at h
  obtain ⟨s₁, hread, hrest₁, hending₁⟩ := readPayload_of_length h hlength
  obtain ⟨s₂, hpayload, hrest₂, hending₂⟩ := readExactly_append hrest₁
  refine ⟨s₂, ?_, hrest₂, hending₂.trans hending₁⟩
  rw [hread, hpayload]
  rfl

/-- Bytes fall into those up to an index and those from it on. -/
theorem eq_append_extract {bytes : ByteArray} {n : Nat} (h : n ≤ bytes.size) :
    bytes = bytes.extract 0 n ++ bytes.extract n bytes.size := by
  rw [← ByteArray.extract_eq_extract_append_extract n (Nat.zero_le n) h,
    ByteArray.extract_zero_size]

/-- A payload that was read stands in front in its frame, and is not too long. -/
theorem exists_append_of_readPayload (h : (readPayload s).1 = .ok (some payload)) :
    payload.size ≤ maxLength ∧ ∃ later, s.rest = ofPayload payload ++ later := by
  obtain ⟨s₁, hread₁, hskips₁⟩ := readExactly_eq s 4
  rw [readPayload, hread₁] at h
  by_cases hfour : 4 ≤ s.remaining
  · have hheader : 4 ≤ s.rest.size := Nat.le_trans hfour (Nat.le_of_eq s.size_rest.symm)
    generalize hlength : readLength (s.rest.extract 0 4) = n at h
    obtain ⟨s₂, hread₂, -⟩ := readExactly_eq s₁ n
    simp only [if_pos hfour, hlength, hread₂] at h
    split at h
    next => cases h
    next hmax =>
      split at h
      next hleft =>
        obtain rfl := Option.some.inj (Except.ok.inj h)
        rw [← s₁.size_rest] at hleft
        have hsize : (s₁.rest.extract 0 n).size = n := by
          rw [ByteArray.size_extract, Nat.min_eq_left hleft, Nat.sub_zero]
        have hfront : lengthBytes n = s.rest.extract 0 4 := by
          rw [← hlength]
          apply lengthBytes_readLength
          rw [ByteArray.size_extract, Nat.min_eq_left hheader]
        refine ⟨Nat.le_trans (Nat.le_of_eq hsize) (Nat.le_of_not_lt hmax),
          s₁.rest.extract n s₁.rest.size, ?_⟩
        -- the header, the payload and what follows make up what was left
        calc s.rest
            = s.rest.extract 0 4 ++ s₁.rest := by
              rw [hskips₁.rest_eq, ← eq_append_extract hheader]
          _ = s.rest.extract 0 4 ++ (s₁.rest.extract 0 n ++ s₁.rest.extract n s₁.rest.size) := by
              rw [← eq_append_extract hleft]
          _ = ofPayload (s₁.rest.extract 0 n) ++ s₁.rest.extract n s₁.rest.size := by
              rw [ofPayload, hsize, hfront, ByteArray.append_assoc]
      next => cases h
  · -- fewer than four bytes are the end of the connection
    rw [if_neg hfour] at h
    cases hending : s.ending <;> simp [hending, atEnd] at h

/-- A frame that is not too long is read back. -/
theorem read_encode (h : s.rest = encode text ++ b) (hlength : text.utf8ByteSize ≤ maxLength) :
    ∃ t, read s = (.ok (some text), t) ∧ t.rest = b ∧ t.ending = s.ending := by
  obtain ⟨t, hpayload, ht⟩ := readPayload_append h hlength
  refine ⟨t, ?_, ht⟩
  rw [read, hpayload]
  simp only [textOf, Text.Utf8.decode_toByteArray]
  rfl

/-- A payload that reads as a text holds the bytes of the text. -/
theorem toByteArray_of_textOf (h : textOf a = .ok text) : text.toByteArray = a := by
  rw [textOf, Text.Utf8.decode, String.fromUTF8?] at h
  split at h
  next found hvalid =>
    obtain rfl := Except.ok.inj h
    split at hvalid
    · obtain rfl := Option.some.inj hvalid
      rfl
    · cases hvalid
  next => cases h

/-- The text of a frame is the text of its payload. -/
theorem readPayload_of_read (h : (read s).1 = .ok (some text)) :
    (readPayload s).1 = .ok (some text.toByteArray) := by
  rw [read] at h
  split at h
  next payload source hpayload =>
    cases htext : textOf payload with
    | error failure =>
      rw [htext] at h
      cases h
    | ok found =>
      rw [htext] at h
      obtain rfl := Option.some.inj (Except.ok.inj h)
      rw [hpayload, toByteArray_of_textOf htext]
  next => cases h
  next => cases h

theorem length_of_read (h : (read s).1 = .ok (some text)) : text.utf8ByteSize ≤ maxLength :=
  (exists_append_of_readPayload (readPayload_of_read h)).1

end Frame

/-! ### Writing -/

namespace Sink

variable {s : Sink} {a b : ByteArray} {n : Nat}

/-- The sink accepts `n` more bytes. -/
def Fits (s : Sink) (n : Nat) : Prop := ∀ room ∈ s.room, n ≤ room

/-- The sink when it has accepted some bytes. -/
def after (s : Sink) (bytes : ByteArray) : Sink :=
  ⟨s.accepted ++ bytes, s.room.map (· - bytes.size)⟩

theorem Fits.mono {m : Nat} (h : s.Fits n) (hle : m ≤ n) : s.Fits m :=
  fun room hroom => Nat.le_trans hle (h room hroom)

theorem fits_after (h : s.Fits a.size) : (s.after a).Fits n ↔ s.Fits (a.size + n) := by
  rcases s with ⟨accepted, _ | room⟩
  · simp [Fits, after]
  · simp only [Fits, after, Option.map_some, Option.mem_some_iff, forall_eq'] at h ⊢
    omega

theorem after_empty (s : Sink) : s.after .empty = s := by
  rcases s with ⟨accepted, _ | room⟩ <;> simp [after]

theorem after_append (s : Sink) (a b : ByteArray) : s.after (a ++ b) = (s.after a).after b := by
  rcases s with ⟨accepted, _ | room⟩ <;> simp [after, ByteArray.append_assoc, Nat.sub_add_eq]

/-- Bytes that fit are all accepted. -/
theorem write_of_fits (h : s.Fits a.size) : s.write a = (true, s.after a) := by
  have hcapacity : capacity s.room a.size = a.size := by
    rcases s with ⟨accepted, _ | room⟩
    · rfl
    · exact Nat.min_eq_right (h room rfl)
  rw [write, hcapacity, ByteArray.extract_zero_size, beq_self_eq_true]
  rfl

/-- No bytes are accepted by any sink. -/
theorem write_empty (s : Sink) : s.write .empty = (true, s) := by
  have hfits : s.Fits ByteArray.empty.size := fun room _ => Nat.zero_le room
  rw [write_of_fits hfits, after_empty]

/-- The sink when it has accepted the front of bytes that do not fit. -/
def fill (s : Sink) (bytes : ByteArray) : Sink :=
  ⟨s.accepted ++ bytes.extract 0 (s.room.getD 0), some 0⟩

/-- Without enough room there is less than that. -/
theorem exists_of_not_fits (h : ¬ s.Fits n) : ∃ room < n, s = ⟨s.accepted, some room⟩ := by
  rcases s with ⟨accepted, _ | room⟩
  · exact absurd nofun h
  · refine ⟨room, ?_, rfl⟩
    simpa [Fits] using h

/-- Of bytes that do not fit, the front is accepted. -/
theorem write_of_not_fits (h : ¬ s.Fits a.size) : s.write a = (false, s.fill a) := by
  obtain ⟨room, hshort, hs⟩ := exists_of_not_fits h
  have hcapacity : capacity (some room) a.size = room := Nat.min_eq_left (Nat.le_of_lt hshort)
  rw [hs]
  simp [write, fill, hcapacity, Nat.ne_of_lt hshort]

/-- What is accepted of bytes that do not fit is a front of them. -/
theorem exists_fill (h : ¬ s.Fits a.size) :
    ∃ n ≤ a.size, (s.fill a).accepted = s.accepted ++ a.extract 0 n := by
  obtain ⟨room, hshort, hs⟩ := exists_of_not_fits h
  refine ⟨room, Nat.le_of_lt hshort, ?_⟩
  rw [hs]
  rfl

/-- Writing two pieces one after the other is writing them at once. -/
theorem write_append (s : Sink) (a b : ByteArray) :
    s.write (a ++ b) = if (s.write a).1 then (s.write a).2.write b else s.write a := by
  have hsize : (a ++ b).size = a.size + b.size := ByteArray.size_append
  by_cases ha : s.Fits a.size
  · rw [write_of_fits ha, if_pos rfl]
    by_cases hb : (s.after a).Fits b.size
    · rw [write_of_fits hb, ← after_append, write_of_fits]
      rwa [hsize, ← fits_after ha]
    · have hwhole : ¬ s.Fits (a ++ b).size := by rwa [hsize, ← fits_after ha]
      rw [write_of_not_fits hb, write_of_not_fits hwhole]
      obtain ⟨room, -, hs⟩ := exists_of_not_fits hwhole
      rw [hs] at ha ⊢
      -- the first piece is accepted as a whole, and the second one up to the room that is left
      simp [fill, after, extract_append_of_le (ha room rfl), ByteArray.append_assoc]
  · have hwhole : ¬ s.Fits (a ++ b).size := fun h =>
      ha (h.mono (hsize ▸ Nat.le_add_right _ _))
    rw [write_of_not_fits ha, write_of_not_fits hwhole, if_neg Bool.false_ne_true]
    obtain ⟨room, hshort, hs⟩ := exists_of_not_fits ha
    -- nothing of the second piece is accepted
    rw [hs]
    simp [fill, extract_append_of_ge (Nat.le_of_lt hshort)]

end Sink

namespace Frame

variable {text : String}

/-- The writing end of a connection without bounds. -/
def openSink (accepted : ByteArray) : Sink := { accepted }

theorem openSink_empty : ({} : Sink) = openSink .empty := rfl

/-- A connection without bounds takes all bytes. -/
theorem write_openSink (accepted bytes : ByteArray) :
    (openSink accepted).write bytes = (true, openSink (accepted ++ bytes)) :=
  Sink.write_of_fits nofun

/-- A text that is not too long is written as its frame. -/
theorem write_eq (accepted : ByteArray) (hlength : text.utf8ByteSize ≤ maxLength) :
    write (openSink accepted) text = (.ok (), openSink (accepted ++ encode text)) := by
  rw [write, if_neg (Nat.not_lt.mpr hlength), write_openSink]
  rfl

/-- Writing the bytes of a file in chunks is writing them at once. -/
theorem writeChunks_eq (bytes : ByteArray) (chunk : Nat) {limit sent : Nat} (sink : Sink)
    (h : sent ≤ limit) :
    writeChunks bytes chunk limit sent sink =
      (if (sink.write (bytes.extract sent limit)).1 then .ok limit else .error .timedOut,
        (sink.write (bytes.extract sent limit)).2) := by
  -- each chunk holds at least one byte, so the induction is on the bytes that are still to be sent
  induction hn : limit - sent using Nat.strongRecOn generalizing sent sink with
  | ind n ih =>
    unfold writeChunks
    by_cases hdone : sent = limit
    · subst hdone
      rw [if_neg (Nat.lt_irrefl sent), ByteArray.extract_same, Sink.write_empty, if_pos rfl]
    · -- the chunk that is written now and those that follow make up what is left
      have hsplit : bytes.extract sent limit = bytes.extract sent (min (sent + chunk + 1) limit) ++
          bytes.extract (min (sent + chunk + 1) limit) limit :=
        ByteArray.extract_eq_extract_append_extract _ (by omega) (by omega)
      rw [if_pos (by omega), hsplit, Sink.write_append]
      dsimp only
      rcases sink.write (bytes.extract sent (min (sent + chunk + 1) limit)) with ⟨_ | _, next⟩
      · rfl
      · exact ih _ (by omega) next (by omega) rfl

/-- The bytes of a file are written as far as they were announced. When the file is shorter, that is
reported after its last byte. -/
theorem writeFile_of_file {files : FileSystem} {path : Path} {content : FileContent}
    (h : files path = .file content) (sink : Sink) (size : Nat) :
    writeFile files sink path size =
      (if (sink.write (content.bytes.extract 0 size)).1 then
          if content.bytes.size < size then
            .error (.fileShrank path.display content.bytes.size size)
          else .ok size
        else .error .timedOut,
        (sink.write (content.bytes.extract 0 size)).2) := by
  rw [writeFile, h]
  simp only [writeChunks_eq content.bytes _ sink (Nat.zero_le _), extract_min]
  rcases sink.write (content.bytes.extract 0 size) with ⟨_ | _, written⟩
  · rfl
  · by_cases hshort : content.bytes.size < size
    · rw [Nat.min_eq_right (Nat.le_of_lt hshort)]
      simp [hshort]
    · rw [Nat.min_eq_left (Nat.le_of_not_lt hshort)]
      simp [hshort]

end Frame

end FederatedCatalog
