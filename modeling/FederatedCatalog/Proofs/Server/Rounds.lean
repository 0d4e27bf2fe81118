import FederatedCatalog.Proofs.Server.Membership

/-!
# Rounds of gossip

A round sends the whole list of known servers to one of the others, and the first frame that comes
back decides whether that one stays. Nothing else is sent and nothing else changes, so a server to
which nobody answers loses the others one by one, and falls silent when it has lost the last.

## Main definitions

* `Connector.returning`: peers that come back with frames or with a failure;
* `PeerAnswer.Acknowledged` and `Round.Settles`: an answer that opens with success, and what a round
  comes to, given the answer;
* `Occasion`, `Directory.gossiped` and `Directory.dispatched`: what a round finds, and what a run of
  rounds leaves and sends.

## Main results

* `Directory.Orderly.settles`: a round with one of the others;
* `Directory.Orderly.round_of_silent`: a round without an acknowledgement;
* `Directory.Orderly.perm_others_of_silent`, `Directory.Orderly.length_others_of_silent`: a run of
  such rounds asks every server that it loses once;
* `Server.gossip_rounds`: all of this together.
-/

namespace FederatedCatalog

/-! ### What comes back -/

/-- The connector whose requests come back, with frames or with a failure. -/
def Connector.returning (ask : Peer → String → Except Failure (List String)) : Connector :=
  fun peer request =>
    match ask peer request with
    | .ok texts => .frames texts
    | .error failure => .failed failure

theorem Connector.returning_ne_crashed (ask : Peer → String → Except Failure (List String))
    (peer : Peer) (request : String) : returning ask peer request ≠ .crashed := by
  rw [returning]
  split <;> nofun

/-- The first frame of the answer reports success. -/
def PeerAnswer.Acknowledged (answer : PeerAnswer) : Prop :=
  ∃ frame later, answer = .frames (frame :: later) ∧ Status.isSuccess frame = true

theorem PeerAnswer.acknowledges_iff {answer : PeerAnswer} :
    answer.acknowledges = true ↔ answer.Acknowledged := by
  rcases answer with (_ | ⟨frame, later⟩) | failure | _ <;>
    simp [acknowledges, texts, Acknowledged]

/-- What a round with a peer comes to, given what comes back from it. -/
structure Round.Settles (round : Round) (d : Directory) (peer : Peer) (answer : PeerAnswer) :
    Prop where
  /-- One request goes out, and it goes to the peer. -/
  sent_eq : round.sent = [⟨peer, d.gossip⟩]
  /-- The list of servers is acknowledged and stays as it was when the first frame reports
  success, and only then. -/
  exchanged_iff :
    round.outcome = .exchanged peer ∧ round.directory = d ↔ answer.Acknowledged
  /-- Whatever else comes back, the peer and nobody else is dropped from the list. -/
  evicted_of : ¬ answer.Acknowledged → answer ≠ .crashed →
    round.outcome = .evicted peer ∧
      round.directory = { d with known := d.known.filter (· ≠ peer) }
  /-- When the task that asks crashes, the round ends with it and has changed nothing. -/
  crashed_of : answer = .crashed → round.outcome = .crashed peer ∧ round.directory = d

namespace Directory

variable {d : Directory} {peer : Peer} {answer : PeerAnswer}

/-! ### A single round -/

/-- What is gossiped parses to an exchange with the hostname and the port of every known server, in
the order of the list. -/
theorem parse?_gossip (d : Directory) :
    Json.parse? d.gossip =
      some (.object [("command", .string "EXCHANGE"),
        ("serverList", .array (d.known.map fun p =>
          .object [("hostname", .string p.hostname),
            ("port", .number (.integer p.port.toNat))]))]) :=
  (Request.exchange d.known).parse?_render

/-- Without others a round sends nothing and changes nothing. -/
theorem exchangeRound_of_alone (h : d.others = []) (selector : Nat → Nat) (connector : Connector) :
    d.exchangeRound selector connector = ⟨.idle, d, []⟩ := by
  rw [exchangeRound, target?, h]
  rfl

/-- Dropping one of the others takes it, and nobody else, off the list. -/
theorem Orderly.remove_eq (h : d.Orderly) (hpeer : peer ∈ d.others) :
    d.remove peer = { d with known := d.known.filter (· ≠ peer) } := by
  have hknown : (d.remove peer).known = d.known.filter (· ≠ peer) := by
    rw [known_remove hpeer, h.known_nodup.erase_eq_filter]
    exact List.filter_congr fun p _ => by rw [Bool.eq_iff_iff]; simp
  calc d.remove peer
      = ⟨(d.remove peer).self, (d.remove peer).known⟩ := rfl
    _ = _ := by rw [remove_self, hknown]

/-- The others are one fewer when one of them is dropped. -/
theorem Orderly.others_remove (h : d.Orderly) (hpeer : peer ∈ d.others) :
    (d.remove peer).others = d.others.erase peer := by
  have hself : d.self ≠ peer := fun heq => by simp [others, heq] at hpeer
  -- both lists begin with the keeper, which is not the one that is dropped
  have hknown := (h.remove peer).known_eq
  rw [known_remove hpeer, remove_self, h.known_eq,
    List.erase_cons_tail (by simpa using hself)] at hknown
  exact (List.cons.inj hknown).2.symm

/-- A round with one of the others comes to what the answer of that one says. -/
theorem Orderly.settles (h : d.Orderly) (hpeer : peer ∈ d.others) (answer : PeerAnswer) :
    (d.conclude peer answer).Settles d peer answer := by
  have hremove := h.remove_eq hpeer
  by_cases hcrashed : answer = .crashed
  · subst hcrashed
    constructor <;> simp [conclude, PeerAnswer.Acknowledged]
  · by_cases hanswer : answer.Acknowledged
    · have hacknowledges := PeerAnswer.acknowledges_iff.mpr hanswer
      constructor <;> simp [conclude, hcrashed, hacknowledges, hanswer]
    · have hsilent : ¬ answer.acknowledges = true := PeerAnswer.acknowledges_iff.not.mpr hanswer
      constructor <;> simp [conclude, hcrashed, hsilent, hanswer, hremove]

/-- The server that a round turns to is the one at the selected index, or the last one if the index
is too large. -/
theorem exists_target (hothers : d.others ≠ []) (selector : Nat → Nat) :
    ∃ peer ∈ d.others, d.target? selector = some peer := by
  rcases d.target?_cases selector with ⟨halone, -⟩ | htarget
  · exact absurd halone hothers
  · exact htarget

end Directory

/-! ### Runs of rounds -/

/-- What a round of gossip finds: the index that is selected for each number of candidates, and what
comes back from each peer. -/
structure Occasion where
  /-- The selected index, for each number of candidates. -/
  selector : Nat → Nat
  /-- What comes back from each peer, for each request. -/
  ask : Peer → String → Except Failure (List String)

/-- Nobody acknowledges anything. -/
def Occasion.Silent (o : Occasion) : Prop :=
  ∀ peer request, ¬ (Connector.returning o.ask peer request).Acknowledged

namespace Directory

/-- The round of gossip on an occasion. -/
def roundOn (d : Directory) (o : Occasion) : Round :=
  d.exchangeRound o.selector (.returning o.ask)

/-- The directory after a run of rounds. -/
def gossiped (d : Directory) (occasions : List Occasion) : Directory :=
  occasions.foldl (fun d o => (d.roundOn o).directory) d

/-- The requests that a run of rounds sends, in their order. -/
def dispatched : Directory → List Occasion → List Dispatch
  | _, [] => []
  | d, o :: occasions => (d.roundOn o).sent ++ (d.roundOn o).directory.dispatched occasions

variable {d : Directory} {o : Occasion} {occasions : List Occasion}

@[simp]
theorem gossiped_cons (d : Directory) (o : Occasion) (occasions : List Occasion) :
    d.gossiped (o :: occasions) = (d.roundOn o).directory.gossiped occasions := rfl

theorem dispatched_append (d : Directory) (earlier later : List Occasion) :
    d.dispatched (earlier ++ later) =
      d.dispatched earlier ++ (d.gossiped earlier).dispatched later := by
  induction earlier generalizing d with
  | nil => rfl
  | cons o earlier ih => simp [dispatched, ih]

/-- A server that knows nobody else never sends anything. -/
theorem dispatched_of_alone (h : d.others = []) (occasions : List Occasion) :
    d.dispatched occasions = [] := by
  induction occasions with
  | nil => rfl
  | cons o occasions ih =>
    -- the first round leaves the server as it was, so the others find it alone as well
    rw [dispatched, roundOn, exchangeRound_of_alone h]
    exact ih

/-- A round in which nobody acknowledges anything finds nobody, or asks one of the others and drops
it. -/
theorem Orderly.round_of_silent (h : d.Orderly) (hsilent : o.Silent) :
    d.others = [] ∧ d.roundOn o = ⟨.idle, d, []⟩ ∨
      ∃ peer ∈ d.others, (d.roundOn o).sent = [⟨peer, d.gossip⟩] ∧
        (d.roundOn o).directory = d.remove peer := by
  by_cases hothers : d.others = []
  · exact .inl ⟨hothers, exchangeRound_of_alone hothers _ _⟩
  · obtain ⟨peer, hpeer, htarget⟩ := exists_target hothers o.selector
    have hround : d.roundOn o = d.conclude peer (Connector.returning o.ask peer d.gossip) := by
      rw [roundOn, exchangeRound, htarget]
    have hsettles := h.settles hpeer (Connector.returning o.ask peer d.gossip)
    have hdropped := hsettles.evicted_of (hsilent peer d.gossip)
      (Connector.returning_ne_crashed _ _ _)
    refine .inr ⟨peer, hpeer, ?_, ?_⟩
    · rw [hround, hsettles.sent_eq]
    · rw [hround, hdropped.2, h.remove_eq hpeer]

/-- A round in which nobody acknowledges anything leaves the list orderly, and asks one of the
others exactly if it loses one. -/
theorem Orderly.step_of_silent (h : d.Orderly) (hsilent : o.Silent) :
    (d.roundOn o).directory.Orderly ∧ (d.roundOn o).directory.self = d.self ∧
      ((d.roundOn o).sent.map Dispatch.peer ++ (d.roundOn o).directory.others).Perm d.others ∧
      (d.roundOn o).directory.others.length = d.others.length - 1 := by
  rcases h.round_of_silent hsilent with ⟨hothers, hround⟩ | ⟨peer, hpeer, hsent, hdirectory⟩
  · simp [hround, hothers, h]
  · rw [hsent, hdirectory, h.others_remove hpeer]
    refine ⟨h.remove peer, d.remove_self peer, ?_, List.length_erase_of_mem hpeer⟩
    exact (List.perm_cons_erase hpeer).symm

/-- In a run of rounds in which nobody acknowledges anything, each of the others is asked once and
lost, or it is still there. -/
theorem Orderly.perm_others_of_silent (h : d.Orderly) (hsilent : ∀ o ∈ occasions, o.Silent) :
    ((d.dispatched occasions).map Dispatch.peer ++ (d.gossiped occasions).others).Perm
      d.others := by
  induction occasions generalizing d with
  | nil => exact List.Perm.refl _
  | cons o occasions ih =>
    rw [List.forall_mem_cons] at hsilent
    obtain ⟨horderly, -, hperm, -⟩ := h.step_of_silent hsilent.1
    rw [dispatched, gossiped_cons, List.map_append, List.append_assoc]
    exact ((ih horderly hsilent.2).append_left _).trans hperm

/-- Each round of such a run makes the others one fewer, until there are none. -/
theorem Orderly.length_others_of_silent (h : d.Orderly) (hsilent : ∀ o ∈ occasions, o.Silent) :
    (d.gossiped occasions).others.length = d.others.length - occasions.length := by
  induction occasions generalizing d with
  | nil => rfl
  | cons o occasions ih =>
    rw [List.forall_mem_cons] at hsilent
    obtain ⟨horderly, -, -, hlength⟩ := h.step_of_silent hsilent.1
    rw [gossiped_cons, ih horderly hsilent.2, hlength, List.length_cons]
    omega

theorem Orderly.gossiped_of_silent (h : d.Orderly) (hsilent : ∀ o ∈ occasions, o.Silent) :
    (d.gossiped occasions).Orderly ∧ (d.gossiped occasions).self = d.self := by
  induction occasions generalizing d with
  | nil => exact ⟨h, rfl⟩
  | cons o occasions ih =>
    rw [List.forall_mem_cons] at hsilent
    obtain ⟨horderly, hself, -, -⟩ := h.step_of_silent hsilent.1
    rw [gossiped_cons, ← hself]
    exact ih horderly hsilent.2

end Directory

/-- A round of gossip sends nothing and changes nothing while no other server is known. Otherwise it
sends one request, an exchange with every known server in the order of the list, to the one of the
others at the selected index, or to the last one if the index is too large. The list stays as it was
exactly if the first frame that comes back reports success; whatever else comes back, that server
and nobody else is taken off it. So when nobody ever acknowledges anything, after as many rounds as
there are others each of them has been asked once, only the server itself is left, and no request is
sent any more, whoever might answer it. -/
theorem Server.gossip_rounds (secret : String) (catalog : Catalog) (self : Peer)
    (happenings : List Happening) :
    let d := ((Server.mk secret catalog (.start self)).during happenings).directory
    (∀ selector connector,
      let round := d.exchangeRound selector connector
      (d.others = [] → round = ⟨.idle, d, []⟩) ∧
      (d.others ≠ [] → ∃ peer,
        d.others[min (selector d.others.length) (d.others.length - 1)]? = some peer ∧
        round.Settles d peer (connector peer d.gossip))) ∧
    Json.parse? d.gossip =
      some (.object [("command", .string "EXCHANGE"),
        ("serverList", .array (d.known.map fun p =>
          .object [("hostname", .string p.hostname),
            ("port", .number (.integer p.port.toNat))]))]) ∧
    ∀ occasions : List Occasion, (∀ o ∈ occasions, o.Silent) →
      d.others.length ≤ occasions.length →
      (d.gossiped occasions).known = [self] ∧
      ((d.dispatched occasions).map Dispatch.peer).Perm d.others ∧
      ∀ later, d.dispatched (occasions ++ later) = d.dispatched occasions := by
  intro d
  have h : d.Orderly := orderly_during (Directory.orderly_start self) happenings
  have hself : d.self = self := self_during _ happenings
  refine ⟨fun selector connector => ⟨fun halone => ?_, fun hothers => ?_⟩, d.parse?_gossip,
    fun occasions hsilent hlength => ?_⟩
  · exact Directory.exchangeRound_of_alone halone selector connector
  · obtain ⟨peer, hpeer, htarget⟩ := Directory.exists_target hothers selector
    refine ⟨peer, htarget, ?_⟩
    rw [Directory.exchangeRound, htarget]
    exact h.settles hpeer (connector peer d.gossip)
  · -- every round has lost one of the others, so none is left
    have halone : (d.gossiped occasions).others = [] := by
      rw [← List.length_eq_zero_iff, h.length_others_of_silent hsilent]
      omega
    have hperm := h.perm_others_of_silent hsilent
    obtain ⟨horderly, hkeeper⟩ := h.gossiped_of_silent hsilent
    rw [halone, List.append_nil] at hperm
    refine ⟨?_, hperm, fun later => ?_⟩
    · rw [horderly.known_eq, halone, hkeeper, hself]
    · rw [Directory.dispatched_append, Directory.dispatched_of_alone halone, List.append_nil]

/-- A server that knows two others selects an index that is too large and gets no frame back, and
then cannot reach the other one. It has asked both and is alone. -/
theorem Server.gossip_rounds_unheard :
    let self : Peer := ⟨"a", 1⟩
    let s := (Server.start "s" self).during [.add ⟨"b", 2⟩, .add ⟨"c", 3⟩]
    let occasions : List Occasion :=
      [⟨fun _ => 7, fun _ _ => .ok []⟩, ⟨fun _ => 0, fun peer _ => .error (.unreachable peer.origin)⟩]
    s.directory.others = [⟨"b", 2⟩, ⟨"c", 3⟩] ∧ (∀ o ∈ occasions, o.Silent) ∧
      (s.directory.gossiped occasions).known = [self] ∧
      ((s.directory.dispatched occasions).map Dispatch.peer).Perm [⟨"b", 2⟩, ⟨"c", 3⟩] := by
  intro self s occasions
  have hothers : s.directory.others = [⟨"b", 2⟩, ⟨"c", 3⟩] := by decide
  have hsilent : ∀ o ∈ occasions, o.Silent := by
    simp [occasions, Occasion.Silent, Connector.returning, PeerAnswer.Acknowledged]
  obtain ⟨-, -, hrun⟩ := gossip_rounds "s" {} self [.add ⟨"b", 2⟩, .add ⟨"c", 3⟩]
  obtain ⟨hknown, hperm, -⟩ := hrun occasions hsilent (by decide)
  refine ⟨hothers, hsilent, hknown, ?_⟩
  rw [← hothers]
  exact hperm

end FederatedCatalog
