import FederatedCatalog.Proofs.Client.Collection
import FederatedCatalog.Proofs.Peer.Extent
import FederatedCatalog.Proofs.Server.Dispatch

/-!
# Gossip and live peers

A server gossips every server it knows in one frame. Whoever sends it lists of servers decides how
long that frame gets, and one that is too long is refused by the server itself before the peer gets
a byte. The round takes that for the silence of the peer, which is dropped although it would have
answered. Until the lists add up to a frame, no live peer is dropped.

## Main definitions

* `Dialled.Acknowledges`: a peer that answers every frame with success.

## Main results

* `Server.gossip_reply_le` and `Server.gossip_after_le`: what is gossiped grows by no more than the
  requests;
* `Client.send_of_le` and `Client.send_of_lt`: what comes of asking such a peer;
* `Server.exchangeRound_live`: a live peer is kept exactly while the list fits a frame;
* `Server.exchangeRound_evicts_live`: one request that fits a frame is enough for a live peer to be
  dropped.
-/

namespace FederatedCatalog

open Json (quotedSize extent costOf sum_costOf_le listSize)

/-! ### What requests add to the list -/

/-- The servers of an exchange take no more bytes in a list than its text. -/
theorem Call.sum_entrySize_le {secret text : String} {servers : List Peer}
    (h : read secret text = .ok (.exchange servers)) :
    (servers.map fun p => p.entrySize + 1).sum ≤ text.utf8ByteSize := by
  obtain ⟨entries, hmember, rfl⟩ := exists_entries_of_read h
  obtain ⟨request, hrequest, hget⟩ := Option.bind_eq_some_iff.mp hmember
  have htext := Json.extent_le_of_parse? hrequest
  have hentries := Peer.sum_entrySize_le entries
  have hkeys : ["serverList"].Nodup := by decide
  -- the text is at least as long as its list, and an entry is at least as long as its server
  have hsum := sum_costOf_le hkeys request
  simp only [List.map_cons, List.map_nil, List.sum_cons, List.sum_nil, hget, costOf,
    Json.memberExtent, Json.extent_array, listSize] at hsum
  omega

namespace Server

/-- A turn makes what is gossiped longer by no more than its request. -/
theorem gossip_reply_le (s : Server) (turn : Turn) :
    (s.reply turn).server.directory.gossip.utf8ByteSize ≤
      s.directory.gossip.utf8ByteSize + turn.text.utf8ByteSize := by
  obtain ⟨servers, hdirectory, rfl | hread⟩ := s.directory_reply turn
  · rw [hdirectory]
    exact Nat.le_add_right _ _
  · rw [hdirectory]
    exact Nat.le_trans (s.directory.gossip_addAll_le servers)
      (Nat.add_le_add_left (Call.sum_entrySize_le hread) _)

/-- A run makes what is gossiped longer by no more than its requests. -/
theorem gossip_after_le (s : Server) (turns : List Turn) :
    (s.after turns).directory.gossip.utf8ByteSize ≤
      s.directory.gossip.utf8ByteSize + (turns.map (·.text.utf8ByteSize)).sum := by
  induction turns generalizing s with
  | nil =>
    rw [after, List.foldl_nil]
    exact Nat.le_add_right _ _
  | cons turn turns ih =>
    have hstep := s.gossip_reply_le turn
    have hlater := ih (s.reply turn).server
    have hafter : s.after (turn :: turns) = (s.reply turn).server.after turns := rfl
    rw [hafter, List.map_cons, List.sum_cons]
    omega

end Server

/-! ### Asking a live peer -/

/-- The server took the connection, and the first frame with which it answers a request reports
success, provided that the request comes in a frame. -/
def Dialled.Acknowledges (request : String) : Dialled → Prop
  | .refused => False
  | .connected reply => request.utf8ByteSize ≤ Frame.maxLength →
    ∃ frame, (Frame.read reply).1 = .ok (some frame) ∧ Status.isSuccess frame = true

namespace Client

variable {request : String} {dialled : Dialled}

/-- A live peer that gets the request is heard. -/
theorem send_of_le (peer : Peer) (h : dialled.Acknowledges request)
    (hlength : request.utf8ByteSize ≤ Frame.maxLength) :
    ∃ frame later, send peer request dialled = .ok (frame :: later) ∧
      Status.isSuccess frame = true := by
  cases dialled with
  | refused => cases h
  | connected reply =>
    -- the request goes out as one frame, so the peer has to answer it
    obtain ⟨frame, hread, hsuccess⟩ := h hlength
    obtain ⟨texts, hlongest⟩ := Frame.exists_longest reply.rest
    have hfirst : Frame.read reply = (.ok (some frame), (Frame.read reply).2) := by
      rw [← hread]
    obtain ⟨later, rfl, -⟩ := hlongest.exists_cons hfirst
    refine ⟨frame, later, ?_, hsuccess⟩
    rw [send_connected peer hlength]
    exact collectAll_eq hlongest nofun

/-- A request that does not fit a frame is not sent to anybody. -/
theorem send_of_lt (peer : Peer) (h : dialled.Acknowledges request)
    (hlength : Frame.maxLength < request.utf8ByteSize) :
    send peer request dialled = .error (.frameTooLarge request.utf8ByteSize) := by
  cases dialled with
  | refused => cases h
  | connected reply =>
    rw [send, writeRequest, Frame.write, if_pos hlength]
    rfl

end Client

/-! ### Rounds -/

namespace Directory

variable {d : Directory} {selector : Nat → Nat} {dial : Peer → String → Dialled} {peer : Peer}

/-- A live peer that gets the list is kept. -/
theorem exchangeRound_of_le (htarget : d.target? selector = some peer)
    (hlive : (dial peer d.gossip).Acknowledges d.gossip)
    (hlength : d.gossip.utf8ByteSize ≤ Frame.maxLength) :
    d.exchangeRound selector (.dialling dial) = ⟨.exchanged peer, d, [⟨peer, d.gossip⟩]⟩ := by
  obtain ⟨frame, later, hsend, hsuccess⟩ := Client.send_of_le peer hlive hlength
  have hanswer : Connector.dialling dial peer d.gossip = .frames (frame :: later) := by
    rw [Connector.dialling, hsend]
  have hacknowledges : (PeerAnswer.frames (frame :: later)).acknowledges = true := hsuccess
  rw [exchangeRound, htarget]
  simp only [hanswer, conclude]
  rw [if_neg nofun, if_pos hacknowledges]

/-- A live peer that would get a list which fits no frame is dropped. -/
theorem exchangeRound_of_lt (htarget : d.target? selector = some peer)
    (hlive : (dial peer d.gossip).Acknowledges d.gossip)
    (hlength : Frame.maxLength < d.gossip.utf8ByteSize) :
    d.exchangeRound selector (.dialling dial) =
      ⟨.evicted peer, d.remove peer, [⟨peer, d.gossip⟩]⟩ := by
  have hanswer : Connector.dialling dial peer d.gossip =
      .failed (.frameTooLarge d.gossip.utf8ByteSize) := by
    rw [Connector.dialling, Client.send_of_lt peer hlive hlength]
  -- the failure is one of this server, but no failure passes for an answer of the peer
  have hsilent (failure : Failure) : ¬ (PeerAnswer.failed failure).acknowledges = true :=
    Bool.false_ne_true
  rw [exchangeRound, htarget]
  simp only [hanswer, conclude]
  rw [if_neg nofun, if_neg (hsilent _)]

end Directory

namespace Server

/-- A server never lists another one twice. -/
theorem nodup_known_after (secret : String) (self : Peer) (turns : List Turn) :
    ((Server.start secret self).after turns).directory.known.Nodup := by
  obtain ⟨peers, hpeers⟩ := (continues_after (sound_empty secret (.start self)) turns).directory_eq
  have hknown : ((Server.start secret self).after turns).directory =
      (Directory.start self).addAll peers := hpeers
  rw [hknown]
  exact Directory.nodup_addAll (List.nodup_singleton self) peers

/-- In a round of gossip with a peer that is there and answers every frame with success, the peer is
kept exactly if the list of known servers fits a frame; otherwise the server drops it without having
sent it a byte. After any requests the list is no longer than it was at the start and the requests
together. -/
theorem exchangeRound_live (secret : String) (self : Peer) (turns : List Turn)
    (selector : Nat → Nat) (dial : Peer → String → Dialled) (peer : Peer) :
    let d := ((Server.start secret self).after turns).directory
    let round := d.exchangeRound selector (.dialling dial)
    d.target? selector = some peer → (dial peer d.gossip).Acknowledges d.gossip →
      d.gossip.utf8ByteSize ≤ (Directory.start self).gossip.utf8ByteSize +
        (turns.map (·.text.utf8ByteSize)).sum ∧
      (d.gossip.utf8ByteSize ≤ Frame.maxLength →
        round.outcome = .exchanged peer ∧ round.directory = d ∧ peer ∈ d.known) ∧
      (Frame.maxLength < d.gossip.utf8ByteSize →
        round.outcome = .evicted peer ∧ peer ∉ round.directory.known) := by
  intro d round htarget hlive
  have hothers := Directory.mem_others_of_target? htarget
  refine ⟨gossip_after_le _ turns, fun hlength => ?_, fun hlength => ?_⟩
  · have hround : round = _ := Directory.exchangeRound_of_le htarget hlive hlength
    rw [hround]
    exact ⟨rfl, rfl, (List.mem_filter.mp hothers).1⟩
  · have hround : round = _ := Directory.exchangeRound_of_lt htarget hlive hlength
    rw [hround]
    exact ⟨rfl, Directory.notMem_remove (nodup_known_after secret self turns) hothers⟩

/-- A server with a hostname of `n` letters. -/
def lettered (n : Nat) : Peer := ⟨String.ofList (List.replicate n 'c'), 3⟩

theorem entrySize_lettered (n : Nat) : (lettered n).entrySize = n + 24 := by
  have hhostname : quotedSize (lettered n).hostname = n + 2 :=
    Json.quotedSize_replicate n (by decide)
  have hport : String.utf8Len (Json.natChars (lettered n).port.toNat) = 1 :=
    (by decide : String.utf8Len (Json.natChars (3 : UInt16).toNat) = 1)
  rw [Peer.entrySize, hhostname, hport]
  omega

theorem received?_lettered {n : Nat} (hn : 0 < n) : (lettered n).received? = some (lettered n) := by
  have hclean : Text.clean (lettered n).hostname = (lettered n).hostname :=
    Text.clean_eq_self (Text.isClean_replicate n (by decide) (by decide))
  have hpresent : (lettered n).hostname.isEmpty = false := by
    rw [Bool.eq_false_iff, ne_eq, String.isEmpty_iff]
    intro hempty
    have hlength : (lettered n).hostname.toList.length = n := by
      rw [lettered, String.toList_ofList, List.length_replicate]
    rw [hempty] at hlength
    exact Nat.ne_of_lt hn hlength
  rw [Peer.received?, hclean, hpresent]
  rfl

/-- A list of two servers, the second one with a hostname of `n` letters. -/
def crowd (n : Nat) : List Peer := [⟨"b", 2⟩, lettered n]

/-- The directory of a server that got this list. -/
def crowded (n : Nat) : Directory := ⟨⟨"a", 1⟩, ⟨"a", 1⟩ :: crowd n⟩

/-- The server takes over the list that it is sent. -/
theorem directory_after_exchange {n : Nat} (hn : 0 < n) :
    ((Server.start "s" ⟨"a", 1⟩).after [.plain (.exchange (crowd n))]).directory = crowded n := by
  -- both hostnames are clean already, so the entries arrive as they were written
  have hread : (crowd n).filterMap Peer.received? = crowd n := by
    have hfirst : Peer.received? ⟨"b", 2⟩ = some ⟨"b", 2⟩ := by decide
    rw [crowd, List.filterMap_cons_some hfirst, List.filterMap_cons_some (received?_lettered hn),
      List.filterMap_nil]
  have hreply : (Server.start "s" ⟨"a", 1⟩).reply (.plain (.exchange (crowd n))) =
      { answer := .ok [.success]
        server := { Server.start "s" ⟨"a", 1⟩ with
          directory := (Directory.start ⟨"a", 1⟩).addAll (crowd n) } } := by
    rw [reply_eq_conclude]
    show conclude _ _ (begin? _ _ (Request.exchange (crowd n)).render) = _
    rw [begin?_render, Request.received, hread]
    rfl
  rw [after, List.foldl_cons, List.foldl_nil, hreply]
  simp [Directory.addAll, Directory.add, Directory.isNew, Directory.holds, Directory.start, crowd,
    crowded, lettered]

/-- The first server of the list is the one that it gossips with first. -/
theorem target?_crowded (n : Nat) : (crowded n).target? (fun _ => 0) = some ⟨"b", 2⟩ := by
  simp [Directory.target?, Directory.others, crowded, crowd, lettered]

/-- The bytes of the list in a request, and of what a server gossips that got it: its own entry
comes on top. -/
theorem utf8ByteSize_crowd (n : Nat) :
    (Request.exchange (crowd n)).render.utf8ByteSize = n + 88 ∧
      (crowded n).gossip.utf8ByteSize = n + 114 := by
  have hentries : Peer.entrySize ⟨"a", 1⟩ = 25 ∧ Peer.entrySize ⟨"b", 2⟩ = 25 := by decide +kernel
  have hgossip : (Request.exchange (crowd n)).render =
      (Directory.mk ⟨"a", 1⟩ (crowd n)).gossip := rfl
  rw [hgossip, Directory.utf8ByteSize_gossip, Directory.utf8ByteSize_gossip, listSize, listSize]
  simp only [crowded, crowd, List.map_cons, List.map_nil, List.sum_cons, List.sum_nil, hentries,
    entrySize_lettered]
  omega

/-- A connection to a server that answers with success, whatever it is sent. -/
def acknowledging : Dialled := .connected (.ofBytes (Frame.encode Status.success.render))

theorem acknowledges_acknowledging (request : String) : acknowledging.Acknowledges request := by
  intro _
  have hrest : (Source.ofBytes (Frame.encode Status.success.render)).rest =
      Frame.encode Status.success.render ++ .empty := by
    rw [Source.rest_ofBytes, ByteArray.append_empty]
  obtain ⟨source, hread, -⟩ := Frame.read_encode hrest (by decide +kernel)
  exact ⟨Status.success.render, by rw [hread], Status.isSuccess_success⟩

/-- While the list is short, the live peer is kept. -/
theorem exchangeRound_live_crowd :
    let d := ((Server.start "s" ⟨"a", 1⟩).after [.plain (.exchange (crowd 3))]).directory
    d.gossip.utf8ByteSize ≤ Frame.maxLength ∧
      (d.exchangeRound (fun _ => 0) (.dialling fun _ _ => acknowledging)).outcome =
        .exchanged ⟨"b", 2⟩ := by
  intro d
  have hdirectory : d = crowded 3 := directory_after_exchange (by decide)
  have htarget : d.target? (fun _ => 0) = some ⟨"b", 2⟩ := by
    rw [hdirectory]
    exact target?_crowded 3
  have hlength : d.gossip.utf8ByteSize ≤ Frame.maxLength := by
    rw [hdirectory, (utf8ByteSize_crowd 3).2]
    decide
  obtain ⟨-, hkept, -⟩ := exchangeRound_live "s" ⟨"a", 1⟩ [.plain (.exchange (crowd 3))]
    (fun _ => 0) (fun _ _ => acknowledging) ⟨"b", 2⟩ htarget (acknowledges_acknowledging _)
  exact ⟨hlength, (hkept hlength).1⟩

/-- One request that fits a frame, from anybody, makes a server drop a peer that is there and
answers with success whatever it is sent. -/
theorem exchangeRound_evicts_live :
    let self : Peer := ⟨"a", 1⟩
    let peer : Peer := ⟨"b", 2⟩
    let request := (Request.exchange (crowd (Frame.maxLength - 88))).render
    let d := ((Server.start "s" self).after
      [.plain (.exchange (crowd (Frame.maxLength - 88)))]).directory
    let round := d.exchangeRound (fun _ => 0) (.dialling fun _ _ => acknowledging)
    self.hostname.utf8ByteSize ≤ 255 ∧ request.utf8ByteSize ≤ Frame.maxLength ∧
      d.target? (fun _ => 0) = some peer ∧ (∀ text, acknowledging.Acknowledges text) ∧
      round.outcome = .evicted peer ∧ peer ∉ round.directory.known := by
  have hsize : Frame.maxLength - 88 + 88 = Frame.maxLength := rfl
  have hpositive : 0 < Frame.maxLength - 88 := by decide
  -- the length is a variable from here on, so that no text of this length is ever computed
  generalize Frame.maxLength - 88 = n at hsize hpositive ⊢
  intro self peer request d round
  obtain ⟨hrequest, hgossip⟩ := utf8ByteSize_crowd n
  have hlong : Frame.maxLength < (crowded n).gossip.utf8ByteSize := by omega
  have hdirectory : d = crowded n := directory_after_exchange hpositive
  have hround : (crowded n).exchangeRound (fun _ => 0) (.dialling fun _ _ => acknowledging) =
      ⟨.evicted peer, (crowded n).remove peer, [⟨peer, (crowded n).gossip⟩]⟩ :=
    Directory.exchangeRound_of_lt (target?_crowded n) (acknowledges_acknowledging _) hlong
  have hdropped : peer ∉ ((crowded n).remove peer).known := by
    have hnodup : (crowded n).known.Nodup := by simp [crowded, crowd, lettered]
    exact Directory.notMem_remove hnodup
      (Directory.mem_others_of_target? (target?_crowded n))
  refine ⟨by decide, Nat.le_of_eq (hrequest.trans hsize), ?_, acknowledges_acknowledging, ?_⟩
  · rw [hdirectory]
    exact target?_crowded n
  · have hevicted : round =
        ⟨.evicted peer, (crowded n).remove peer, [⟨peer, (crowded n).gossip⟩]⟩ := by
      rw [← hround, ← hdirectory]
    rw [hevicted]
    exact ⟨rfl, hdropped⟩

end Server

end FederatedCatalog
