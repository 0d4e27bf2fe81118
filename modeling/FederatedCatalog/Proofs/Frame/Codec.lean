import FederatedCatalog.Proofs.Frame.Stream

/-!
# Streams of frames

Frames follow one another on a connection without anything between them. Whatever texts are written,
a reader gets them back one by one, and what follows them is left. A connection that breaks off
anywhere still gives the frames that arrived whole; the reader then learns whether it stopped inside
one, except that a broken length looks like the end of the connection.

## Main definitions

* `Frame.encodeAll`: the frames of texts one after the other;
* `Frame.writeAll` and `Frame.readings`: writing texts in a row, and reading in a row;
* `Source.Agrees`: sources that differ only in the pieces in which their bytes arrive.

## Main results

* `Frame.readings_encodeAll`: the frames of texts are read back as the texts;
* `Frame.readings_cut`: what is read from frames that break off;
* `Frame.readings_agrees`: the pieces in which bytes arrive make no difference;
* `Frame.write_bounded`: what a writing end with little room gets of a frame;
* `Frame.codec`: all of this together.
-/

namespace FederatedCatalog

/-! ### Sources that agree -/

/-- The sources have the same bytes left and end alike, in whatever pieces the bytes arrive. -/
structure Source.Agrees (s t : Source) : Prop where
  rest_eq : s.rest = t.rest
  ending_eq : s.ending = t.ending

namespace Frame

variable {s t : Source} {text : String} {texts : List String} {n : Nat}

theorem readExactly_agrees (h : s.Agrees t) (n : Nat) :
    (readExactly s n).1 = (readExactly t n).1 ∧ (readExactly s n).2.Agrees (readExactly t n).2 := by
  obtain ⟨s', hs, hskips⟩ := readExactly_eq s n
  obtain ⟨t', ht, hskipt⟩ := readExactly_eq t n
  have hremaining : s.remaining = t.remaining := by
    rw [← s.size_rest, h.rest_eq, t.size_rest]
  rw [hs, ht, h.rest_eq, h.ending_eq, hremaining]
  refine ⟨rfl, ?_, ?_⟩
  · show s'.rest = t'.rest
    rw [hskips.rest_eq, hskipt.rest_eq, h.rest_eq]
  · exact hskips.ending_eq.trans (h.ending_eq.trans hskipt.ending_eq.symm)

theorem readPayload_agrees (h : s.Agrees t) :
    (readPayload s).1 = (readPayload t).1 ∧ (readPayload s).2.Agrees (readPayload t).2 := by
  obtain ⟨hheader, hbehind⟩ := readExactly_agrees h 4
  rw [readPayload, readPayload]
  -- both readers get the same header, and go on with sources that agree
  rcases hs : readExactly s 4 with ⟨header, s'⟩
  rcases ht : readExactly t 4 with ⟨header', t'⟩
  rw [hs, ht] at hheader hbehind
  obtain rfl : header = header' := hheader
  cases header with
  | error failure =>
    by_cases heof : failure = .io .unexpectedEof
    · subst heof
      exact ⟨rfl, hbehind⟩
    · simp only [true_and]
      exact hbehind
  | ok header =>
    simp only
    split
    · exact ⟨rfl, hbehind⟩
    · obtain ⟨hpayload, hafter⟩ := readExactly_agrees hbehind (readLength header)
      exact ⟨congrArg (Except.map some) hpayload, hafter⟩

theorem read_agrees (h : s.Agrees t) :
    (read s).1 = (read t).1 ∧ (read s).2.Agrees (read t).2 := by
  obtain ⟨hpayload, hbehind⟩ := readPayload_agrees h
  rw [read, read]
  rcases hs : readPayload s with ⟨payload, s'⟩
  rcases ht : readPayload t with ⟨payload', t'⟩
  rw [hs, ht] at hpayload hbehind
  obtain rfl : payload = payload' := hpayload
  rcases payload with failure | _ | payload <;> exact ⟨rfl, hbehind⟩

/-! ### Reading and writing in a row -/

/-- The frames of texts one after the other. -/
def encodeAll : List String → ByteArray
  | [] => .empty
  | text :: texts => encode text ++ encodeAll texts

/-- Write the frames of texts in a row, up to the first that cannot be written. -/
def writeAll (sink : Sink) : List String → Except Failure Unit × Sink
  | [] => (.ok (), sink)
  | text :: texts =>
    match write sink text with
    | (.ok (), sink) => writeAll sink texts
    | (.error failure, sink) => (.error failure, sink)

/-- What `n` readings in a row give, and the source after them. -/
def readings : Nat → Source → List (Except Failure (Option String)) × Source
  | 0, s => ([], s)
  | n + 1, s => ((read s).1 :: (readings n (read s).2).1, (readings n (read s).2).2)

theorem size_encode (text : String) : (encode text).size = 4 + text.utf8ByteSize :=
  ByteArray.size_append

/-- The pieces in which bytes arrive make no difference to what is read, or to what is left. -/
theorem readings_agrees (h : s.Agrees t) (n : Nat) :
    (readings n s).1 = (readings n t).1 ∧ (readings n s).2.Agrees (readings n t).2 := by
  induction n generalizing s t with
  | zero => exact ⟨rfl, h⟩
  | succ n ih =>
    obtain ⟨hresult, hbehind⟩ := read_agrees h
    obtain ⟨hresults, hafter⟩ := ih hbehind
    refine ⟨?_, hafter⟩
    rw [readings, readings, hresult, hresults]

/-- Texts that are not too long are all written, as their frames. -/
theorem writeAll_eq (htexts : ∀ text ∈ texts, text.utf8ByteSize ≤ maxLength)
    (accepted : ByteArray) :
    writeAll (openSink accepted) texts = (.ok (), openSink (accepted ++ encodeAll texts)) := by
  induction texts generalizing accepted with
  | nil => rw [writeAll, encodeAll, ByteArray.append_empty]
  | cons text texts ih =>
    obtain ⟨hlength, hlengths⟩ := List.forall_mem_cons.mp htexts
    rw [writeAll, write_eq accepted hlength]
    simp only
    rw [ih hlengths, encodeAll, ByteArray.append_assoc]

/-- The frames of texts are read back as the texts, and what follows them is left. -/
theorem readings_encodeAll (htexts : ∀ text ∈ texts, text.utf8ByteSize ≤ maxLength)
    {trailing : ByteArray} (hrest : s.rest = encodeAll texts ++ trailing) :
    (readings texts.length s).1 = texts.map (fun text => .ok (some text)) ∧
      (readings texts.length s).2.rest = trailing := by
  induction texts generalizing s with
  | nil => exact ⟨rfl, hrest.trans ByteArray.empty_append⟩
  | cons text texts ih =>
    obtain ⟨hlength, hlengths⟩ := List.forall_mem_cons.mp htexts
    rw [encodeAll, ByteArray.append_assoc] at hrest
    obtain ⟨t, hread, hbehind, -⟩ := read_encode hrest hlength
    obtain ⟨hresults, hleft⟩ := ih hlengths hbehind
    simp only [List.length_cons, readings, hread, List.map_cons, hresults, hleft, and_self]

/-! ### Frames that break off -/

/-- A closed connection with fewer than four bytes left is at its end. -/
theorem read_of_size_lt (hrest : s.rest.size < 4) (hclosed : s.ending = .closed) :
    (read s).1 = .ok none := by
  obtain ⟨t, hheader, -⟩ := readExactly_eq s 4
  rw [if_neg (by rw [← s.size_rest]; omega), hclosed] at hheader
  rw [read, readPayload, hheader]
  rfl

/-- From a frame that breaks off, a reader of a closed connection gets no text: inside the length it
is at the end, and behind it bytes are missing. -/
theorem read_cut (hlength : text.utf8ByteSize ≤ maxLength) (hn : n < (encode text).size)
    (hrest : s.rest = (encode text).extract 0 n) (hclosed : s.ending = .closed) :
    (read s).1 = if n < 4 then .ok none else .error (.io .unexpectedEof) := by
  have hsize : s.rest.size = n := by
    rw [hrest, ByteArray.size_extract]
    omega
  split
  next hlt => exact read_of_size_lt (hsize.symm ▸ hlt) hclosed
  next hfour =>
    -- the length has come, and announces more bytes than there are
    have hfront : s.rest = lengthBytes text.utf8ByteSize ++ text.toByteArray.extract 0 (n - 4) := by
      rw [hrest, encode]
      exact extract_append_of_le (Nat.le_of_not_lt hfour)
    obtain ⟨s₁, hread, hrest₁, hending₁⟩ := readPayload_of_length hfront hlength
    obtain ⟨s₂, hpayload, -⟩ := readExactly_eq s₁ text.utf8ByteSize
    have hmissing : ¬ text.utf8ByteSize ≤ s₁.remaining := by
      rw [size_encode] at hn
      rw [← s₁.size_rest, hrest₁, ByteArray.size_extract]
      omega
    rw [if_neg hmissing, hending₁, hclosed] at hpayload
    rw [read, hread, hpayload]
    rfl

/-- From frames that break off after `cut` bytes, a reader of a closed connection gets the texts
whose frames are whole, and then what it gets from the one that is not. -/
theorem readings_cut (htexts : ∀ text ∈ texts, text.utf8ByteSize ≤ maxLength) {cut : Nat}
    (hcut : cut ≤ (encodeAll texts).size) (hrest : s.rest = (encodeAll texts).extract 0 cut)
    (hclosed : s.ending = .closed) :
    ∃ kept lost, texts = kept ++ lost ∧ (encodeAll kept).size ≤ cut ∧
      (∀ text ∈ lost.head?, cut < (encodeAll kept).size + (encode text).size) ∧
      (readings (kept.length + 1) s).1 = kept.map (fun text => .ok (some text)) ++
        [if cut - (encodeAll kept).size < 4 then .ok none else .error (.io .unexpectedEof)] := by
  induction texts generalizing s cut with
  | nil =>
    have hempty : s.rest.size < 4 := by
      rw [hrest, encodeAll, ByteArray.size_extract, ByteArray.size_empty]
      omega
    obtain rfl : cut = 0 := Nat.le_zero.mp hcut
    refine ⟨[], [], rfl, Nat.le_refl 0, nofun, ?_⟩
    rw [readings, read_of_size_lt hempty hclosed]
    rfl
  | cons text texts ih =>
    obtain ⟨hlength, hlengths⟩ := List.forall_mem_cons.mp htexts
    rw [encodeAll] at hrest
    rw [encodeAll, ByteArray.size_append] at hcut
    by_cases hwhole : (encode text).size ≤ cut
    · -- the first frame is whole, and the connection breaks off in those behind it
      rw [extract_append_of_le hwhole] at hrest
      obtain ⟨t, hread, hbehind, hending⟩ := read_encode hrest hlength
      obtain ⟨kept, lost, rfl, hkept, hlost, hresults⟩ :=
        ih hlengths (by omega) hbehind (hending.trans hclosed)
      refine ⟨text :: kept, lost, rfl, ?_, ?_, ?_⟩
      · rw [encodeAll, ByteArray.size_append]
        omega
      · intro next hnext
        have := hlost next hnext
        rw [encodeAll, ByteArray.size_append]
        omega
      · rw [List.length_cons, readings, hread, hresults, encodeAll, ByteArray.size_append,
          Nat.sub_add_eq]
        rfl
    · -- the first frame breaks off, and nothing of those behind it has come
      rw [extract_append_of_ge (Nat.le_of_not_le hwhole)] at hrest
      have hbroken := read_cut hlength (Nat.lt_of_not_le hwhole) hrest hclosed
      refine ⟨[], text :: texts, rfl, Nat.zero_le cut, ?_, ?_⟩
      · rintro _ ⟨⟩
        rw [encodeAll, ByteArray.size_empty]
        omega
      · rw [List.length_nil, readings, hbroken]
        rfl

/-! ### Writing ends with bounds -/

/-- A text that is too long is refused, and nothing is written. -/
theorem write_of_lt (sink : Sink) (hlength : maxLength < text.utf8ByteSize) :
    write sink text = (.error (.frameTooLarge text.utf8ByteSize), sink) :=
  if_pos hlength

/-- A writing end with room for some bytes gets as many bytes of a frame as it has room for, and
writing succeeds when that is the whole frame. -/
theorem write_bounded (accepted : ByteArray) (room : Nat)
    (hlength : text.utf8ByteSize ≤ maxLength) :
    (write ⟨accepted, some room⟩ text).2.accepted =
        accepted ++ (encode text).extract 0 (min room (4 + text.utf8ByteSize)) ∧
      ((write ⟨accepted, some room⟩ text).1 = .ok () ↔ 4 + text.utf8ByteSize ≤ room) := by
  -- writing succeeds when the bytes that were accepted are as many as the frame has
  rw [write, if_neg (Nat.not_lt.mpr hlength), Sink.write, Sink.capacity, size_encode]
  refine ⟨rfl, ?_⟩
  by_cases hroom : 4 + text.utf8ByteSize ≤ room
  · simp [hroom]
  · have hshort : min room (4 + text.utf8ByteSize) ≠ 4 + text.utf8ByteSize := by omega
    simp [hroom, hshort]

/-- Texts of the allowed length, written in a row, are read back in a row, and what follows them is
left. If their frames break off, the reader gets those that are whole, and then the end of the
connection when fewer than four bytes are left and an error otherwise. A text beyond the allowed
length is refused without a byte being written, and a writing end with little room gets the front of
the frame. Nothing that is read depends on the pieces in which the bytes arrive. -/
theorem codec (texts : List String) (htexts : ∀ text ∈ texts, text.utf8ByteSize ≤ maxLength) :
    let stream := (writeAll {} texts).2.accepted
    (writeAll {} texts).1 = .ok () ∧
    (∀ (s : Source) (trailing : ByteArray), s.rest = stream ++ trailing →
      (readings texts.length s).1 = texts.map (fun text => .ok (some text)) ∧
        (readings texts.length s).2.rest = trailing) ∧
    (∀ (s : Source) (cut : Nat), cut ≤ stream.size → s.rest = stream.extract 0 cut →
      s.ending = .closed → ∃ kept lost, texts = kept ++ lost ∧ (encodeAll kept).size ≤ cut ∧
        (∀ text ∈ lost.head?, cut < (encodeAll kept).size + (encode text).size) ∧
        (readings (kept.length + 1) s).1 = kept.map (fun text => .ok (some text)) ++
          [if cut - (encodeAll kept).size < 4 then .ok none else .error (.io .unexpectedEof)]) ∧
    (∀ (sink : Sink) (text : String), maxLength < text.utf8ByteSize →
      ∃ failure, failure.kind = .protocol ∧ write sink text = (.error failure, sink)) ∧
    (∀ (accepted : ByteArray) (room : Nat) (text : String), text.utf8ByteSize ≤ maxLength →
      (write ⟨accepted, some room⟩ text).2.accepted =
          accepted ++ (encode text).extract 0 (min room (4 + text.utf8ByteSize)) ∧
        ((write ⟨accepted, some room⟩ text).1 = .ok () ↔ 4 + text.utf8ByteSize ≤ room)) ∧
    ∀ (s t : Source), s.Agrees t → ∀ n, (readings n s).1 = (readings n t).1 ∧
      (readings n s).2.Agrees (readings n t).2 := by
  intro stream
  -- what was written is the frames of the texts, so all that follows is about these
  have hwritten := writeAll_eq htexts .empty
  rw [ByteArray.empty_append, ← openSink_empty] at hwritten
  have hstream : stream = encodeAll texts := by
    show (writeAll {} texts).2.accepted = encodeAll texts
    rw [hwritten]
    rfl
  rw [hstream]
  refine ⟨by rw [hwritten], ?_, ?_, ?_, ?_, ?_⟩
  · intro s trailing hrest
    exact readings_encodeAll htexts hrest
  · intro s cut hcut hrest hclosed
    exact readings_cut htexts hcut hrest hclosed
  · intro sink text hlength
    exact ⟨_, rfl, write_of_lt sink hlength⟩
  · intro accepted room text hlength
    exact write_bounded accepted room hlength
  · intro s t hagree n
    exact readings_agrees hagree n

/-- An empty text and one of two bytes are read back from their frames, and the byte behind is
left. -/
theorem codec_pair :
    let texts := ["", "é"]
    let input : Source := .ofBytes ((writeAll {} texts).2.accepted ++ ⟨#[7]⟩)
    (readings 2 input).1 = [.ok (some ""), .ok (some "é")] ∧
      (readings 2 input).2.rest = ⟨#[7]⟩ := by
  have hlengths : ∀ text ∈ ["", "é"], text.utf8ByteSize ≤ maxLength := by decide
  obtain ⟨-, hread, -⟩ := codec ["", "é"] hlengths
  exact hread _ _ (Source.rest_ofBytes _)

end Frame

end FederatedCatalog
