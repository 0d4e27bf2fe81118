import FederatedCatalog.Client
import FederatedCatalog.Proofs.Frame.Row

/-!
# Collecting frames

A client reads frame after frame until the connection ends or until something cannot be read as a
frame. Each frame takes bytes off the connection, so this comes to an end by itself, and what it
comes to is the longest row of frames. What is wrong with the bytes behind the row is of no account,
unless the row is empty.

## Main definitions

* `Client.Collects`: reading without a bound, and what it comes to.

## Main results

* `Client.collects_iff`: the bound on the number of frames is never reached;
* `Client.collectAll_eq`: frames are collected up to the end of the longest row;
* `Client.collectAll_of_longest_nil`: without frames, the first reading decides.
-/

namespace FederatedCatalog.Client

variable {s : Source} {frames texts : List String} {result other : Except Failure (List String)}
  {request : String}

/-- Reading on behind some frames, for as long as there are more, comes to this result. -/
inductive Collects : List String → Source → Except Failure (List String) → Prop where
  /-- A frame is read, and reading goes on behind it. -/
  | frame {frames : List String} {source behind : Source} {text : String}
      {result : Except Failure (List String)}
      (hread : Frame.read source = (.ok (some text), behind))
      (hbehind : Collects (frames ++ [text]) behind result) : Collects frames source result
  /-- The connection is at its end. -/
  | ended {frames : List String} {source : Source} (hread : (Frame.read source).1 = .ok none) :
      Collects frames source (.ok frames)
  /-- What comes behind some frames cannot be read. -/
  | stopped {frames : List String} {source : Source} {failure : Failure}
      (hread : (Frame.read source).1 = .error failure) (hframes : frames ≠ []) :
      Collects frames source (.ok frames)
  /-- What comes first cannot be read. -/
  | failed {source : Source} {failure : Failure} (hread : (Frame.read source).1 = .error failure) :
      Collects [] source (.error failure)

/-- With a bound above the number of bytes that are left, collecting is reading without a bound. -/
theorem collects_collect {bound : Nat} (hbound : s.remaining < bound) (frames : List String) :
    Collects frames s (collect bound frames.reverse s) := by
  -- the frames so far are kept in reverse, and put in order only where reading ends
  induction bound generalizing s frames with
  | zero => exact absurd hbound (Nat.not_lt_zero _)
  | succ bound ih =>
    rcases hread : Frame.read s with ⟨failure | _ | text, behind⟩ <;> rw [collect, hread] <;>
      dsimp only
    · by_cases hframes : frames = []
      · subst hframes
        exact .failed (congrArg Prod.fst hread)
      · rw [if_neg (by simpa using hframes), List.reverse_reverse]
        exact .stopped (congrArg Prod.fst hread) hframes
    · rw [List.reverse_reverse]
      exact .ended (congrArg Prod.fst hread)
    · -- the frame took the four bytes of its length at least
      have hfewer : behind.remaining < bound := by
        obtain ⟨-, hrest, -⟩ := Frame.rest_of_read hread
        have hsize := congrArg ByteArray.size hrest
        rw [s.size_rest, ByteArray.size_append, Frame.size_encode, behind.size_rest] at hsize
        omega
      have hbehind := ih hfewer (frames ++ [text])
      rw [List.reverse_concat] at hbehind
      exact .frame hread hbehind

theorem Collects.unique (h : Collects frames s result) (hother : Collects frames s other) :
    result = other := by
  -- a source gives one reading, so both results come about in the same way
  induction h with
  | frame hread _ ih =>
    cases hother with
    | frame hread' hbehind =>
      obtain ⟨htext, rfl⟩ := Prod.mk.inj (hread.symm.trans hread')
      obtain rfl := Option.some.inj (Except.ok.inj htext)
      exact ih hbehind
    | ended hread' | stopped hread' | failed hread' =>
      rw [hread] at hread'
      cases hread'
  | ended hread =>
    cases hother with
    | ended => rfl
    | frame hread' => simp [hread'] at hread
    | stopped hread' | failed hread' => simp [hread'] at hread
  | stopped hread hframes =>
    cases hother with
    | stopped => rfl
    | frame hread' => simp [hread'] at hread
    | ended hread' => simp [hread'] at hread
    | failed => exact absurd rfl hframes
  | failed hread =>
    cases hother with
    | failed hread' => exact congrArg Except.error (Except.error.inj (hread.symm.trans hread'))
    | frame hread' => simp [hread'] at hread
    | ended hread' => simp [hread'] at hread
    | stopped _ hframes => exact absurd rfl hframes

/-- The bound on the number of frames is never reached: reading without it comes to an end, and to
the same result. -/
theorem collects_iff : Collects frames s result ↔ collectAll frames s = result := by
  have hcollects : Collects frames s (collectAll frames s) :=
    collects_collect (Nat.lt_succ_self _) _
  constructor
  · exact hcollects.unique
  · rintro rfl
    exact hcollects

/-- Reading on gives the longest row of frames that is left, if there are frames at all. -/
theorem Collects.eq_ok (h : Collects frames s result) (hlongest : Frame.Longest texts s.rest)
    (hsome : frames ++ texts ≠ []) : result = .ok (frames ++ texts) := by
  -- what is read next is what the row goes on with
  induction h generalizing texts with
  | frame hread _ ih =>
    obtain ⟨later, rfl, hlater⟩ := hlongest.exists_cons hread
    rw [List.append_cons] at hsome ⊢
    exact ih hlater hsome
  | ended hread | stopped hread =>
    obtain rfl := hlongest.eq_nil (by simp [hread])
    rw [List.append_nil]
  | failed hread =>
    obtain rfl := hlongest.eq_nil (by simp [hread])
    exact absurd rfl hsome

/-- Frames are collected up to the end of the longest row, whatever comes behind it. -/
theorem collectAll_eq (hlongest : Frame.Longest texts s.rest) (hsome : frames ++ texts ≠ []) :
    collectAll frames s = .ok (frames ++ texts) :=
  (collects_iff.mpr rfl).eq_ok hlongest hsome

/-- Where no frame is in front, the first reading decides. -/
theorem collectAll_of_longest_nil (hlongest : Frame.Longest [] s.rest) :
    collectAll [] s = (Frame.read s).1.map fun _ => [] := by
  have hcollects : Collects [] s (collectAll [] s) := collects_iff.mpr rfl
  generalize collectAll [] s = result at hcollects
  cases hcollects with
  | frame hread =>
    obtain ⟨later, hnil, -⟩ := hlongest.exists_cons hread
    cases hnil
  | ended hread | failed hread =>
    rw [hread]
    rfl
  | stopped _ hframes => exact absurd rfl hframes

/-- On a closed connection the longest row is collected, unless there are no frames but four bytes
or more: then the first of them cannot be read. -/
theorem collectAll_cases (hlongest : Frame.Longest texts s.rest) (hclosed : s.ending = .closed) :
    (collectAll [] s = .ok texts ∧ (texts = [] → s.rest.size < 4)) ∨
      texts = [] ∧ 4 ≤ s.rest.size ∧ ∃ failure, collectAll [] s = .error failure := by
  cases texts with
  | cons text texts => exact .inl ⟨collectAll_eq hlongest nofun, nofun⟩
  | nil =>
    have hfirst := collectAll_of_longest_nil hlongest
    rcases hread : (Frame.read s).1 with failure | _ | text <;> rw [hread] at hfirst
    · refine .inr ⟨rfl, Nat.le_of_not_lt fun hsize => ?_, failure, hfirst⟩
      rw [Frame.read_of_size_lt hsize hclosed] at hread
      cases hread
    · exact .inl ⟨hfirst, fun _ => (Frame.read_eq_none_iff.mp hread).2⟩
    · obtain ⟨later, hcons, -⟩ := hlongest.exists_cons (Prod.ext hread rfl)
      cases hcons

/-- The frames of texts are collected as the texts, also when there are none. -/
theorem collectAll_encodeAll (htexts : ∀ text ∈ texts, text.utf8ByteSize ≤ Frame.maxLength)
    (hrest : s.rest = Frame.encodeAll texts) (hclosed : s.ending = .closed) :
    collectAll [] s = .ok texts := by
  have hlongest : Frame.Longest texts s.rest := hrest ▸ Frame.longest_encodeAll htexts
  obtain ⟨hok, -⟩ | ⟨rfl, hsize, -⟩ := collectAll_cases hlongest hclosed
  · exact hok
  · rw [hrest] at hsize
    exact absurd hsize (by decide)

/-- A request that is not too long is written as its frame. -/
theorem writeRequest_eq (hlength : request.utf8ByteSize ≤ Frame.maxLength) :
    writeRequest request = .ok (Frame.encode request) := by
  rw [writeRequest, Frame.openSink_empty, Frame.write_eq .empty hlength]
  exact congrArg Except.ok ByteArray.empty_append

/-- After a request that was written, the frames of the answer are collected. -/
theorem send_connected (peer : Peer) (hlength : request.utf8ByteSize ≤ Frame.maxLength)
    (reply : Source) : send peer request (.connected reply) = collectAll [] reply := by
  rw [send, writeRequest_eq hlength]
  rfl

end FederatedCatalog.Client
