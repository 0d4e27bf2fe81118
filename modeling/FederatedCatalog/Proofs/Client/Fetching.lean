import FederatedCatalog.Proofs.Client.Collection
import FederatedCatalog.Proofs.Message.RoundTrip
import FederatedCatalog.Proofs.Resource.RoundTrip

/-!
# What a fetch brings back

A fetch is read in stages: a status, a description, as many bytes as that announces and the frames
that are left. What is wrong with the frames behind the file is passed over, but everything before
counts: a file comes back only from bytes that hold all of it, behind a description that announces
its length.

## Main definitions

* `Fetched.ReadFrom`: what the bytes of a reply have to be for something to be fetched.

## Main results

* `Client.readFetched_eq_ok_iff`: something is read from a reply exactly when it is there;
* `Client.fetch_whole`: a file that is brought back is whole, and all else is a failure.
-/

namespace FederatedCatalog

/-- Bytes that were read are as many as were asked for, and stood in front. -/
theorem Frame.rest_of_readBytes {s t : Source} {n : Nat} {bytes : ByteArray}
    (h : readBytes s n = (.ok bytes, t)) : bytes.size = n ∧ s.rest = bytes ++ t.rest := by
  obtain ⟨t', hread, hskips⟩ := readBytes_eq s n
  obtain ⟨hbytes, rfl⟩ := Prod.mk.inj (hread.symm.trans h)
  split at hbytes
  next hle =>
    obtain rfl := Except.ok.inj hbytes
    rw [← s.size_rest] at hle
    refine ⟨by rw [ByteArray.size_extract, Nat.min_eq_left hle, Nat.sub_zero], ?_⟩
    rw [hskips.rest_eq]
    exact eq_append_extract hle
  next => cases hbytes

/-- The number of bytes that a description announces, none if it does not say. -/
def Resource.announced (r : Resource) : Nat := (r.size.map UInt64.toNat).getD 0

/-- This is fetched from a reply: nothing from a connection that is at its end, the status alone
when that is no success, and otherwise what a description announces. -/
inductive Fetched.ReadFrom (reply : Source) : Fetched → Prop where
  /-- The connection is closed before there is a length. -/
  | nothing (hclosed : reply.ending = .closed) (hshort : reply.rest.size < 4) : ReadFrom reply {}
  /-- The first frame is no success. -/
  | refused (first : String) (behind : ByteArray)
      (hrest : reply.rest = Frame.encode first ++ behind)
      (hlength : first.utf8ByteSize ≤ Frame.maxLength)
      (hrefused : Status.isSuccess first = false) : ReadFrom reply { frames := [first] }
  /-- A success frame, a description, the bytes that it announces and a row of frames. -/
  | complete (first description : String) (resource : Resource) (bytes : ByteArray)
      (later : List String) (behind : ByteArray)
      (hrest : reply.rest =
        Frame.encode first ++ (Frame.encode description ++ (bytes ++ behind)))
      (hfirst : first.utf8ByteSize ≤ Frame.maxLength)
      (hsecond : description.utf8ByteSize ≤ Frame.maxLength)
      (hsuccess : Status.isSuccess first = true)
      (hdescription : Resource.ofPeerFrame? description = some resource)
      (hbytes : bytes.size = resource.announced)
      (hlater : Frame.Longest later behind) :
      ReadFrom reply
        { frames := first :: description :: later, resource := some resource, bytes }

namespace Client

variable {reply : Source} {fetched : Fetched}

/-- What is there is read. -/
theorem readFetched_of_readFrom (h : fetched.ReadFrom reply) : readFetched reply = .ok fetched := by
  cases h with
  | nothing hclosed hshort =>
    have hread : Frame.read reply = (.ok none, (Frame.read reply).2) :=
      Prod.ext (Frame.read_eq_none_iff.mpr ⟨hclosed, hshort⟩) rfl
    rw [readFetched, hread]
  | refused first behind hrest hlength hrefused =>
    obtain ⟨reply₁, hread, -⟩ := Frame.read_encode hrest hlength
    rw [readFetched, hread]
    simp only [hrefused, Bool.false_eq_true, if_false]
  | complete first description resource bytes later behind hrest hfirst hsecond hsuccess
      hdescription hbytes hlater =>
    -- each stage leaves the bytes of those behind it
    obtain ⟨reply₁, hread₁, hrest₁, -⟩ := Frame.read_encode hrest hfirst
    obtain ⟨reply₂, hread₂, hrest₂, -⟩ := Frame.read_encode hrest₁ hsecond
    obtain ⟨reply₃, hread₃, hrest₃⟩ := Frame.readBytes_append hrest₂
    rw [hbytes, Resource.announced] at hread₃
    rw [← hrest₃] at hlater
    have hframes : collectAll [first, description] reply₃ = .ok (first :: description :: later) :=
      collectAll_eq hlater (by simp)
    rw [readFetched, hread₁]
    simp only [hsuccess, if_true, hread₂, hdescription, hread₃, hframes]
    rfl

/-- What is read is there. -/
theorem readFrom_of_readFetched (h : readFetched reply = .ok fetched) : fetched.ReadFrom reply := by
  rw [readFetched] at h
  -- the stages one after the other: each fails, or takes its bytes off the front
  rcases hread₁ : Frame.read reply with ⟨failure | _ | first, reply₁⟩ <;> rw [hread₁] at h <;>
    dsimp only at h
  · cases h
  · obtain rfl := Except.ok.inj h
    obtain ⟨hclosed, hshort⟩ := Frame.read_eq_none_iff.mp (congrArg Prod.fst hread₁)
    exact .nothing hclosed hshort
  obtain ⟨hfirst, hrest₁, -⟩ := Frame.rest_of_read hread₁
  split at h
  next hsuccess =>
    rcases hread₂ : Frame.read reply₁ with ⟨failure | _ | description, reply₂⟩ <;>
      rw [hread₂] at h <;> dsimp only at h
    · cases h
    · cases h
    obtain ⟨hsecond, hrest₂, -⟩ := Frame.rest_of_read hread₂
    split at h
    · cases h
    next resource hdescription =>
      rw [← Resource.announced] at h
      rcases hread₃ : Frame.readBytes reply₂ resource.announced with ⟨failure | bytes, reply₃⟩ <;>
        rw [hread₃] at h <;> dsimp only at h
      · cases h
      obtain ⟨hbytes, hrest₃⟩ := Frame.rest_of_readBytes hread₃
      -- there are frames already, so those behind the bytes cannot make it fail
      obtain ⟨later, hlater⟩ := Frame.exists_longest reply₃.rest
      have hframes : collectAll [first, description] reply₃ = .ok (first :: description :: later) :=
        collectAll_eq hlater (by simp)
      rw [hframes] at h
      obtain rfl := Except.ok.inj h
      refine .complete first description resource bytes later reply₃.rest ?_ hfirst hsecond
        hsuccess hdescription hbytes hlater
      rw [hrest₁, hrest₂, hrest₃]
  next hrefused =>
    obtain rfl := Except.ok.inj h
    exact .refused first reply₁.rest hrest₁ hfirst (Bool.not_eq_true _ ▸ hrefused)

theorem readFetched_eq_ok_iff : readFetched reply = .ok fetched ↔ fetched.ReadFrom reply :=
  ⟨readFrom_of_readFetched, readFetched_of_readFrom⟩

/-- A fetch brings something back exactly when the request can be written and it is there. -/
theorem fetch_eq_ok_iff (peer : Peer) (request : String) :
    fetch peer request (.connected reply) = .ok fetched ↔
      request.utf8ByteSize ≤ Frame.maxLength ∧ fetched.ReadFrom reply := by
  by_cases hlength : request.utf8ByteSize ≤ Frame.maxLength
  · have hfetch : fetch peer request (.connected reply) = readFetched reply := by
      rw [fetch, writeRequest_eq hlength]
      rfl
    rw [hfetch, readFetched_eq_ok_iff, and_iff_right hlength]
  · -- the request is not sent, and nothing is read
    rw [fetch, writeRequest, Frame.write_of_lt _ (Nat.lt_of_not_le hlength)]
    refine ⟨fun hok => ?_, fun h => absurd h.1 hlength⟩
    cases hok

/-- Behind a success frame and a description, nothing is there unless the announced bytes are. -/
theorem size_le_of_readFrom {first description : String} {resource : Resource} {behind : ByteArray}
    (h : fetched.ReadFrom reply)
    (hrest : reply.rest = Frame.encode first ++ (Frame.encode description ++ behind))
    (hfirst : first.utf8ByteSize ≤ Frame.maxLength)
    (hsecond : description.utf8ByteSize ≤ Frame.maxLength)
    (hsuccess : Status.isSuccess first = true)
    (hdescription : Resource.ofPeerFrame? description = some resource) :
    resource.announced ≤ behind.size := by
  cases h with
  | nothing _ hshort =>
    rw [hrest, ByteArray.size_append, Frame.size_encode] at hshort
    omega
  | refused first' behind' hrest' hlength hrefused =>
    obtain ⟨rfl, -⟩ := Frame.encode_append_inj hfirst hlength (hrest.symm.trans hrest')
    rw [hsuccess] at hrefused
    cases hrefused
  | complete first' description' resource' bytes later behind' hrest' hfirst' hsecond' _
      hdescription' hbytes =>
    -- the bytes fall into the same frames both times, so the description is the same
    obtain ⟨rfl, hrest₁⟩ := Frame.encode_append_inj hfirst hfirst' (hrest.symm.trans hrest')
    obtain ⟨rfl, rfl⟩ := Frame.encode_append_inj hsecond hsecond' hrest₁
    obtain rfl := Option.some.inj (hdescription.symm.trans hdescription')
    rw [← hbytes, ByteArray.size_append]
    exact Nat.le_add_right _ _

/-- Whatever bytes a server sends, a file that is brought back is whole: the bytes begin with a
success frame, with a description of the file, with as many bytes as that announces, which are those
of the file, and with the other frames that are brought back. Without a file, nothing comes back or
one frame that is no success. This is all that can come back, and it does come back when it is
there; anything else is a failure, and so is a file of which bytes are missing. -/
theorem fetch_whole (peer : Peer) (request : String) (reply : Source) :
    let outcome := fetch peer request (.connected reply)
    (∀ fetched resource, outcome = .ok fetched → fetched.resource = some resource →
      ∃ first description later behind,
        fetched.frames = first :: description :: later ∧ Status.isSuccess first = true ∧
        Resource.ofPeerFrame? description = some resource ∧
        fetched.bytes.size = (resource.size.map UInt64.toNat).getD 0 ∧
        reply.rest = Frame.encode first ++ (Frame.encode description ++
          (fetched.bytes ++ (Frame.encodeAll later ++ behind)))) ∧
    (∀ fetched, outcome = .ok fetched → fetched.resource = none →
      fetched.bytes = .empty ∧ (fetched.frames = [] ∨
        ∃ first, fetched.frames = [first] ∧ Status.isSuccess first = false)) ∧
    (∀ fetched, outcome = .ok fetched ↔
      request.utf8ByteSize ≤ Frame.maxLength ∧ fetched.ReadFrom reply) ∧
    ∀ first description resource behind,
      reply.rest = Frame.encode first ++ (Frame.encode description ++ behind) →
      first.utf8ByteSize ≤ Frame.maxLength → description.utf8ByteSize ≤ Frame.maxLength →
      Status.isSuccess first = true → Resource.ofPeerFrame? description = some resource →
      behind.size < resource.announced → ∃ failure, outcome = .error failure := by
  intro outcome
  have hiff (fetched : Fetched) : outcome = .ok fetched ↔
      request.utf8ByteSize ≤ Frame.maxLength ∧ fetched.ReadFrom reply :=
    fetch_eq_ok_iff peer request
  refine ⟨fun fetched resource hok hresource => ?_, fun fetched hok hnone => ?_, hiff, ?_⟩
  · obtain ⟨-, hthere⟩ := (hiff fetched).mp hok
    cases hthere with
    | nothing | refused => cases hresource
    | complete first description _ bytes later behind hrest _ _ hsuccess hdescription hbytes
        hlater =>
      obtain rfl := Option.some.inj hresource
      obtain ⟨-, tail, rfl⟩ := hlater.leads
      exact ⟨first, description, later, tail, rfl, hsuccess, hdescription, hbytes, hrest⟩
  · obtain ⟨-, hthere⟩ := (hiff fetched).mp hok
    cases hthere with
    | nothing => exact ⟨rfl, .inl rfl⟩
    | refused first _ _ _ hrefused => exact ⟨rfl, .inr ⟨first, rfl, hrefused⟩⟩
    | complete => cases hnone
  · intro first description resource behind hrest hfirst hsecond hsuccess hdescription hshort
    cases houtcome : outcome with
    | error failure => exact ⟨failure, rfl⟩
    | ok fetched =>
      obtain ⟨-, hthere⟩ := (hiff fetched).mp houtcome
      have hle := size_le_of_readFrom hthere hrest hfirst hsecond hsuccess hdescription
      exact absurd hshort (Nat.not_lt_of_le hle)

/-- The description of a file with three bytes. -/
def threeBytes : Resource := { uri := "x:y", size := some 3 }

/-- A reply that announces three bytes, and ends with these bytes instead. -/
def announcing (bytes : ByteArray) : Source :=
  .ofBytes (Frame.encode Status.success.render ++ (Frame.encode threeBytes.render ++ bytes))

/-- Two bytes instead of three are no file, and one byte behind the file is passed over. -/
theorem fetch_whole_three :
    (∃ failure, fetch ⟨"a", 1⟩ "{}" (.connected (announcing ⟨#[7, 8]⟩)) = .error failure) ∧
      fetch ⟨"a", 1⟩ "{}" (.connected (announcing ⟨#[7, 8, 9, 0]⟩)) = .ok
        { frames := [Status.success.render, threeBytes.render]
          resource := some threeBytes
          bytes := ⟨#[7, 8, 9]⟩ } := by
  have hfirst : Status.success.render.utf8ByteSize ≤ Frame.maxLength := by decide +kernel
  have hsecond : threeBytes.render.utf8ByteSize ≤ Frame.maxLength := by decide +kernel
  have hdescription := threeBytes.ofPeerFrame?_render
  have hrest (bytes : ByteArray) : (announcing bytes).rest =
      Frame.encode Status.success.render ++ (Frame.encode threeBytes.render ++ bytes) :=
    Source.rest_ofBytes _
  constructor
  · obtain ⟨-, -, -, hshort⟩ := fetch_whole ⟨"a", 1⟩ "{}" (announcing ⟨#[7, 8]⟩)
    exact hshort _ _ _ _ (hrest _) hfirst hsecond Status.isSuccess_success hdescription (by decide)
  · obtain ⟨-, -, hiff, -⟩ := fetch_whole ⟨"a", 1⟩ "{}" (announcing ⟨#[7, 8, 9, 0]⟩)
    have hread : (Frame.read (.ofBytes ⟨#[0]⟩)).1 = .ok none :=
      Frame.read_eq_none_iff.mpr ⟨rfl, by decide⟩
    have hlater := Frame.longest_nil_of_read (s := .ofBytes ⟨#[0]⟩) (by simp [hread])
    rw [Source.rest_ofBytes] at hlater
    refine (hiff _).mpr ⟨by decide, .complete Status.success.render threeBytes.render threeBytes
      ⟨#[7, 8, 9]⟩ [] ⟨#[0]⟩ (hrest _) hfirst hsecond Status.isSuccess_success hdescription rfl
      hlater⟩

end Client

end FederatedCatalog
