import FederatedCatalog.Proofs.Frame.Stream

/-!
# Counters of streams

Whoever streams the bytes of a file keeps count in 64-bit numbers: of the bytes that may still be
taken from the file, of those that were sent, and of those that are still to come. The file and the
connection hand out their bytes in pieces of any size. Here both loops run with counters that are
checked at every step. However the bytes are cut, no counter leaves its range, and what comes out is
what `Frame.writeFile` and `Frame.readBytes` say.

## Main definitions

* `Counter.up?`, `Counter.down?`: counting in 64 bits, as long as the numbers fit;
* `Frame.sendCounted`, `Frame.readCounted`: the two loops with checked counters;
* `Frame.Sends`, `Frame.Takes`: the first bytes of a file are sent, those of a connection are taken.

## Main results

* `Frame.copyCounted_step`, `Frame.copyCounted_eq`: copying counts within range, in a single turn
  and in all of them;
* `Frame.readCounted_eq_gather`: reading counts what is still missing;
* `Frame.sendCounted_eq`, `Frame.readCounted_eq_readBytes`: the loops come to what was said;
* `Frame.stream_counted`: bytes that were sent are taken again, and no others.
-/

namespace FederatedCatalog

/-! ### Counters -/

namespace Counter

variable {a : UInt64} {n : Nat}

/-- Count `n` up; there is no such number when it takes more than 64 bits. -/
def up? (a : UInt64) (n : Nat) : Option UInt64 :=
  if a.toNat + n < UInt64.size then some (.ofNat (a.toNat + n)) else none

/-- Count `n` down; there is no such number below zero. -/
def down? (a : UInt64) (n : Nat) : Option UInt64 :=
  if n ≤ a.toNat then some (.ofNat (a.toNat - n)) else none

/-- A number that is no larger than a counter fits as well. -/
theorem toNat_ofNat_of_le (h : n ≤ a.toNat) : (UInt64.ofNat n).toNat = n :=
  UInt64.toNat_ofNat_of_lt' (Nat.lt_of_le_of_lt h a.toNat_lt_size)

theorem exists_up? (h : a.toNat + n < UInt64.size) :
    ∃ b, up? a n = some b ∧ b.toNat = a.toNat + n :=
  ⟨_, if_pos h, UInt64.toNat_ofNat_of_lt' h⟩

theorem exists_down? (h : n ≤ a.toNat) : ∃ b, down? a n = some b ∧ b.toNat = a.toNat - n :=
  ⟨_, if_pos h, toNat_ofNat_of_le (Nat.sub_le a.toNat n)⟩

end Counter

namespace Source

theorem reads_advance (s : Source) (k : Nat) : (s.advance k).reads = s.reads + 1 := rfl

/-- To get `n` bytes together takes no more single reads that hand out something than there are
bytes to get. -/
theorem reads_gather_le (limit n : Nat) (got : ByteArray) (s : Source) :
    (gather limit n got s).2.reads ≤ s.reads + min n s.remaining := by
  fun_induction gather limit n got s with
  | case1 => exact Nat.le_add_right _ _
  | case2 => exact Nat.le_add_right _ _
  | case3 n got s hzero k hk ih =>
    have hle : k ≤ min _ s.remaining := s.handout_le (min n (limit + 1))
    rw [remaining_advance, reads_advance] at ih
    omega

end Source

namespace Frame

variable {files : FileSystem} {path : Path} {content : FileContent} {sink : Sink}
variable {left sent : UInt64}

/-! ### Sending -/

/-- Copy the bytes of a file to a connection, in pieces as the file hands them out: no more than
`left`, and `sent` were copied before. There is no outcome when a counter leaves its range. -/
def copyCounted (left sent : UInt64) (file : Source) (sink : Sink) :
    Option (Except Failure UInt64 × Source × Sink) :=
  let k := file.handout (min left.toNat chunkSize)
  if k = 0 then some (.ok sent, file, sink)
  else do
    let left' ← Counter.down? left k
    let (accepted, sink) := sink.write (file.bytes.extract file.position (file.position + k))
    if accepted then
      let sent' ← Counter.up? sent k
      copyCounted left' sent' (file.advance k) sink
    else some (.error .timedOut, file.advance k, sink)
termination_by file.remaining
decreasing_by
  have hle := file.handout_le (min left.toNat chunkSize)
  rw [Source.remaining_advance]
  omega

/-- Stream the first `size` bytes of an opened file, with checked counters. -/
def sendCounted (path : Path) (size : UInt64) (file : Source) (sink : Sink) :
    Option (Except Failure UInt64 × Source × Sink) := do
  let (answer, file, sink) ← copyCounted size 0 file sink
  let complete := answer.bind fun sent =>
    if sent < size then .error (.fileShrank path.display sent.toNat size.toNat) else .ok sent
  some (complete, file, sink)

/-- A turn of the copying that is not the last one moves both counters by the size of a piece, which
fits, since together they stay below what 64 bits can hold. -/
theorem copyCounted_step {k : Nat} {file : Source} (sink : Sink)
    (hk : file.handout (min left.toNat chunkSize) = k) (hne : k ≠ 0)
    (h : left.toNat + sent.toNat < UInt64.size) :
    ∃ left' sent' : UInt64, left'.toNat = left.toNat - k ∧ sent'.toNat = sent.toNat + k ∧
      copyCounted left sent file sink =
        let (accepted, sink) := sink.write (file.bytes.extract file.position (file.position + k))
        if accepted then copyCounted left' sent' (file.advance k) sink
        else some (.error .timedOut, file.advance k, sink) := by
  have hle := file.handout_le (min left.toNat chunkSize)
  obtain ⟨left', hleft, hleftNat⟩ := Counter.exists_down? (a := left) (n := k) (by omega)
  obtain ⟨sent', hsent, hsentNat⟩ := Counter.exists_up? (a := sent) (n := k) (by omega)
  refine ⟨left', sent', hleftNat, hsentNat, ?_⟩
  rw [copyCounted]
  simp [hk, hne, hleft, hsent]

/-- The bytes are written as if at once, and the counters stay in their ranges. -/
theorem copyCounted_eq (left sent : UInt64) (file : Source) (sink : Sink)
    (h : left.toNat + sent.toNat < UInt64.size) :
    let bytes := file.rest.extract 0 left.toNat
    ∃ reader, copyCounted left sent file sink =
        some (if (sink.write bytes).1 then .ok (.ofNat (sent.toNat + bytes.size))
          else .error .timedOut, reader, (sink.write bytes).2) ∧
      reader.reads ≤ file.reads + bytes.size := by
  -- each turn but the last takes at least one byte from the file
  induction hn : file.remaining using Nat.strongRecOn generalizing left sent file sink with
  | ind n ih =>
    intro bytes
    have hsize : bytes.size = min left.toNat file.remaining := by
      simp [bytes, file.size_rest]
    have hle := file.handout_le (min left.toNat chunkSize)
    rcases Nat.eq_zero_or_pos (file.handout (min left.toNat chunkSize)) with hend | hpos
    · -- nothing comes any more, since the limit was reached or the file has ended
      have hempty : bytes = .empty := by
        have hchunk : 0 < chunkSize := by decide
        rw [Source.handout_eq_zero_iff] at hend
        rw [← ByteArray.size_eq_zero_iff, hsize]
        omega
      refine ⟨file, ?_, Nat.le_add_right _ _⟩
      rw [copyCounted]
      simp [hend, hempty, Sink.write_empty]
    · generalize hk : file.handout (min left.toNat chunkSize) = k at hpos hle
      obtain ⟨left', sent', hleft, hsent, hstep⟩ :=
        copyCounted_step sink hk (Nat.ne_of_gt hpos) h
      have hadvanced := file.remaining_advance k
      -- the piece that is written now and those that follow make up what is left
      have hsplit : file.bytes.extract file.position (file.position + k) ++
          (file.advance k).rest.extract 0 left'.toNat = bytes := by
        rw [hleft]
        exact Source.extract_append_advance (by omega)
      have hpiece : bytes.size = k + ((file.advance k).rest.extract 0 left'.toNat).size := by
        rw [hsize, ByteArray.size_extract, Source.size_rest]
        omega
      rw [hstep, ← hsplit, Sink.write_append, hsplit]
      rcases sink.write (file.bytes.extract file.position (file.position + k)) with
        ⟨_ | _, next⟩
      · -- the connection blocks within this piece, and that ends the copying
        refine ⟨file.advance k, rfl, ?_⟩
        rw [Source.reads_advance]
        omega
      · obtain ⟨reader, hcopy, hreads⟩ :=
          ih _ (by omega) left' sent' (file.advance k) next (by omega) rfl
        rw [Source.reads_advance] at hreads
        refine ⟨reader, ?_, by omega⟩
        simp only [↓reduceIte, hcopy, hsent, hpiece, Nat.add_assoc]

/-- The outcome of sending `size` bytes of a file that holds these: as many as there are were put on
the connection, and it is a success exactly when that is all of them. -/
structure Sends (bytes : ByteArray) (size : Nat) (sink : Sink)
    (outcome : Except Failure Nat × Sink) : Prop where
  sink_eq : outcome.2 = sink.after (bytes.extract 0 (min size bytes.size))
  ok_iff : outcome.1 = .ok size ↔ size ≤ bytes.size
  fails_of_lt : bytes.size < size →
    ∃ failure, outcome.1 = .error failure ∧ failure.kind = .transport

/-- On a connection with room for them, the first bytes of a file are sent. -/
theorem sends_writeFile (hfile : files path = .file content) (n : Nat)
    (hfits : sink.Fits (min n content.bytes.size)) :
    Sends content.bytes n sink (writeFile files sink path n) := by
  have hsize : (content.bytes.extract 0 n).size = min n content.bytes.size := by simp
  have hwrite : sink.write (content.bytes.extract 0 n) =
      (true, sink.after (content.bytes.extract 0 n)) :=
    Sink.write_of_fits (by rwa [hsize])
  rw [writeFile_of_file hfile, hwrite, if_pos rfl]
  by_cases hshort : content.bytes.size < n
  · rw [if_pos hshort]
    refine ⟨by rw [extract_min], ?_, fun _ => ⟨_, rfl, rfl⟩⟩
    simp [Nat.not_le.mpr hshort]
  · rw [if_neg hshort]
    refine ⟨by rw [extract_min], ?_, fun h => absurd h hshort⟩
    simp [Nat.le_of_not_lt hshort]

/-- However the file hands out its bytes, the loop with checked counters has an outcome, and it is
that of `writeFile`. -/
theorem sendCounted_eq (hfile : files path = .file content) (size : UInt64) {file : Source}
    (hrest : file.rest = content.bytes) (sink : Sink) :
    ∃ answer reader,
      sendCounted path size file sink =
        some (answer, reader, (writeFile files sink path size.toNat).2) ∧
      answer.map UInt64.toNat = (writeFile files sink path size.toNat).1 ∧
      reader.reads ≤ file.reads + min size.toNat content.bytes.size := by
  obtain ⟨reader, hcopy, hreads⟩ := copyCounted_eq size 0 file sink size.toNat_lt_size
  have hbytes : (content.bytes.extract 0 size.toNat).size = min size.toNat content.bytes.size := by
    simp
  have hsent : (UInt64.ofNat (min size.toNat content.bytes.size)).toNat =
      min size.toNat content.bytes.size :=
    Counter.toNat_ofNat_of_le (Nat.min_le_left _ _)
  rw [hrest, hbytes, UInt64.toNat_zero, Nat.zero_add] at hcopy
  rw [hrest, hbytes] at hreads
  generalize UInt64.ofNat (min size.toNat content.bytes.size) = sent at hcopy hsent
  rw [writeFile_of_file hfile, sendCounted, hcopy]
  refine ⟨_, reader, rfl, ?_, hreads⟩
  rcases sink.write (content.bytes.extract 0 size.toNat) with ⟨_ | _, written⟩
  · rfl
  · -- in the end the counter is compared with what was announced
    by_cases hshort : content.bytes.size < size.toNat
    · rw [Nat.min_eq_right (Nat.le_of_lt hshort)] at hsent
      simp [Except.bind, Except.map, UInt64.lt_iff_toNat_lt, hsent, hshort]
    · rw [Nat.min_eq_left (Nat.le_of_not_lt hshort)] at hsent
      simp [Except.bind, Except.map, UInt64.lt_iff_toNat_lt, hsent, hshort]

/-! ### Taking -/

/-- Read into `got` until `remaining` is zero, in pieces as they arrive. A read that comes to the
end of the connection fails as `fault` says. There is no outcome when the counter leaves its
range. -/
def readCounted (fault : UInt64 → Failure) (remaining : UInt64) (got : ByteArray) (s : Source) :
    Option (Except Failure ByteArray × Source) :=
  if remaining = 0 then some (.ok got, s)
  else
    let k := s.handout (min remaining.toNat chunkSize)
    if k = 0 then some (.error (fault remaining), s)
    else do
      let remaining' ← Counter.down? remaining k
      readCounted fault remaining' (got ++ s.bytes.extract s.position (s.position + k))
        (s.advance k)
termination_by s.remaining
decreasing_by
  have hle := s.handout_le (min remaining.toNat chunkSize)
  rw [Source.remaining_advance]
  omega

/-- The counter says at any time how many bytes are still missing, so it never falls below zero. -/
theorem readCounted_eq_gather (fault : UInt64 → Failure) (remaining : UInt64) (got : ByteArray)
    (s : Source) :
    readCounted fault remaining got s =
      let (gathered, t) := s.gather (chunkSize - 1) remaining.toNat got
      some (if gathered.missing = 0 then .ok gathered.bytes
        else .error (fault (.ofNat gathered.missing)), t) := by
  have hchunk : chunkSize - 1 + 1 = chunkSize := by decide
  -- both loops take their turns in step, and each turn takes at least one byte
  induction hn : s.remaining using Nat.strongRecOn generalizing remaining got s with
  | ind n ih =>
    rw [readCounted, Source.gather, hchunk]
    by_cases hzero : remaining = 0
    · simp [hzero]
    · have hzeroNat : remaining.toNat ≠ 0 := fun h => hzero (UInt64.toNat_inj.mp h)
      have hle := s.handout_le (min remaining.toNat chunkSize)
      generalize s.handout (min remaining.toNat chunkSize) = k at hle
      rw [if_neg hzero, if_neg hzeroNat]
      rcases Nat.eq_zero_or_pos k with rfl | hpos
      · simp [hzeroNat]
      · obtain ⟨remaining', hcount, hcountNat⟩ :=
          Counter.exists_down? (a := remaining) (n := k) (by omega)
        have hadvanced := s.remaining_advance k
        simp only [if_neg (Nat.ne_of_gt hpos), hcount, Option.bind_eq_bind, Option.bind_some,
          ← hcountNat]
        exact ih _ (by omega) remaining' _ (s.advance k) rfl

/-- The outcome of taking `size` bytes off a connection: when there are as many, those and no others
are taken. -/
structure Takes (s : Source) (size : UInt64) (fault : UInt64 → Failure)
    (outcome : Except Failure ByteArray × Source) : Prop where
  ok_of_le : size.toNat ≤ s.rest.size → outcome.1 = .ok (s.rest.extract 0 size.toNat)
  rest_of_le : size.toNat ≤ s.rest.size →
    outcome.2.rest = s.rest.extract size.toNat s.rest.size
  fails_of_lt : s.rest.size < size.toNat →
    outcome.1 = .error (fault (.ofNat (size.toNat - s.rest.size)))
  reads_le : outcome.2.reads ≤ s.reads + min size.toNat s.rest.size

/-- However the bytes arrive, and whatever comes behind the last one, the loop with a checked counter
has an outcome, and takes as many bytes as were announced. -/
theorem takes_readCounted (fault : UInt64 → Failure) (size : UInt64) (s : Source) :
    ∃ outcome, readCounted fault size .empty s = some outcome ∧ Takes s size fault outcome := by
  obtain ⟨t, hgather, ht⟩ := s.gather_eq (chunkSize - 1) size.toNat .empty
  have hreads := s.reads_gather_le (chunkSize - 1) size.toNat .empty
  rw [readCounted_eq_gather, hgather]
  rw [hgather, ← s.size_rest] at hreads
  simp only [ByteArray.empty_append, Nat.sub_eq_zero_iff_le, ← s.size_rest]
  refine ⟨_, rfl, fun h => if_pos h, fun _ => ht.rest_eq, fun h => ?_, hreads⟩
  exact if_neg (Nat.not_le.mpr h)

/-- How a read at the end of a connection is reported when so many bytes are outstanding. -/
def outstanding (s : Source) (size : UInt64) (missing : UInt64) : Failure :=
  atEnd s.ending (.streamEnded missing.toNat size.toNat)

theorem readCounted_eq_readBytes (s : Source) (size : UInt64) :
    readCounted (outstanding s size) size .empty s = some (readBytes s size.toNat) := by
  obtain ⟨t, hgather, ht⟩ := s.gather_eq (chunkSize - 1) size.toNat .empty
  have hmissing : (UInt64.ofNat (size.toNat - s.remaining)).toNat = size.toNat - s.remaining :=
    Counter.toNat_ofNat_of_le (Nat.sub_le _ _)
  rw [readCounted_eq_gather, readBytes, hgather]
  simp only [outstanding, hmissing, ht.ending_eq]

theorem takes_readBytes (s : Source) (size : UInt64) :
    Takes s size (outstanding s size) (readBytes s size.toNat) := by
  obtain ⟨outcome, hread, htakes⟩ := takes_readCounted (outstanding s size) size s
  obtain rfl := Option.some.inj ((readCounted_eq_readBytes s size).symm.trans hread)
  exact htakes

/-! ### Both ends -/

/-- On a connection with room, `writeFile` sends the first `size` bytes of a file, as far as there
are as many, and `readBytes` takes `size` bytes off any connection, as far as there are as many.
The loops with checked counters have the same outcomes, however the file and the connection hand out
their bytes and whatever comes behind the last one, after no more single reads than there are bytes.
So bytes that were sent with success are taken again, and what was written behind them is left. -/
theorem stream_counted (hfile : files path = .file content) (size : UInt64)
    (hfits : sink.Fits (min size.toNat content.bytes.size)) :
    let outcome := writeFile files sink path size.toNat
    let bytes := content.bytes.extract 0 size.toNat
    (Sends content.bytes size.toNat sink outcome ∧
      ∀ file : Source, file.rest = content.bytes → ∃ answer reader,
        sendCounted path size file sink = some (answer, reader, outcome.2) ∧
        answer.map UInt64.toNat = outcome.1 ∧
        reader.reads ≤ file.reads + min size.toNat content.bytes.size) ∧
    (∀ s : Source, Takes s size (outstanding s size) (readBytes s size.toNat) ∧
      readCounted (outstanding s size) size .empty s = some (readBytes s size.toNat) ∧
      ∀ fault, ∃ outcome, readCounted fault size .empty s = some outcome ∧
        Takes s size fault outcome) ∧
    (outcome.1 = .ok size.toNat → ∀ (s : Source) (later : ByteArray),
      sink.accepted ++ s.rest = outcome.2.accepted ++ later →
        ∃ t, readBytes s size.toNat = (.ok bytes, t) ∧ t.rest = later) := by
  intro outcome bytes
  have hsends : Sends content.bytes size.toNat sink outcome := sends_writeFile hfile _ hfits
  refine ⟨⟨hsends, fun file hrest => sendCounted_eq hfile size hrest sink⟩, fun s => ?_,
    fun hok s later hconnection => ?_⟩
  · exact ⟨takes_readBytes s size, readCounted_eq_readBytes s size,
      fun fault => takes_readCounted fault size s⟩
  · -- what is still to be read begins where the sink stood before
    have hrest : s.rest = bytes ++ later := by
      rw [hsends.sink_eq, extract_min, Sink.after, ByteArray.append_assoc,
        ByteArray.append_right_inj] at hconnection
      exact hconnection
    have hsize : bytes.size = size.toNat := by
      simp [bytes, hsends.ok_iff.mp hok]
    rw [← hsize]
    exact readBytes_append hrest

/-- A file of three bytes. -/
def threeBytes : FileContent := ⟨⟨#[1, 2, 3]⟩, by decide⟩

/-- Two of three bytes are sent where there is room for two, and taken again when others follow. -/
theorem stream_counted_three :
    let files : FileSystem := fun _ => .file threeBytes
    let sink : Sink := { room := some 2 }
    let outcome := writeFile files sink [] 2
    outcome.1 = .ok 2 ∧ outcome.2.accepted = ⟨#[1, 2]⟩ ∧
      ∃ t, readBytes (.ofBytes ⟨#[1, 2, 9]⟩) 2 = (.ok ⟨#[1, 2]⟩, t) ∧ t.rest = ⟨#[9]⟩ := by
  intro files sink outcome
  have hfile : files [] = .file threeBytes := rfl
  have hfits : sink.Fits (min (2 : UInt64).toNat threeBytes.bytes.size) := by
    rintro room ⟨⟩
    exact Nat.min_le_left _ _
  obtain ⟨⟨hsends, -⟩, -, htaken⟩ := stream_counted hfile 2 hfits
  have hok : outcome.1 = .ok 2 := hsends.ok_iff.mpr (by decide)
  have haccepted : outcome.2.accepted = ⟨#[1, 2]⟩ := congrArg Sink.accepted hsends.sink_eq
  refine ⟨hok, haccepted, htaken hok (.ofBytes ⟨#[1, 2, 9]⟩) ⟨#[9]⟩ ?_⟩
  change _ = outcome.2.accepted ++ _
  rw [haccepted, Source.rest_ofBytes]
  rfl

end Frame

end FederatedCatalog
