import FederatedCatalog.Proofs.Server.Envelope

/-!
# Asking the other servers at once

A query to be relayed is sent to all other servers at the same time. Each of them is talked to by a
task of its own, the tasks finish in any order, and their answers are taken in the order of the
servers, each of them as soon as its task has finished and the answers before it were taken. What
comes out does not depend on who is fast and who is slow.

## Main definitions

* `PeerAnswer.contribution`: what an answer adds to the resources that were found;
* `Fanout`, `Fanout.Step` and `Fanout.Run`: the tasks of a relayed query, and how they go on.

## Main results

* `Fanout.Step.merged_eq`: the step: what is found in the end stays the same;
* `Fanout.Run.complete`: the run: it ends, and then the answers are joined in order;
* `Server.relay_answers`: what a query to be relayed comes to, whatever the other servers answer.
-/

namespace FederatedCatalog

/-- What an answer adds to the resources that were found: its frames that can be read as resources.
A failure and a crash add nothing. -/
def PeerAnswer.contribution : PeerAnswer → List Resource
  | frames texts => texts.filterMap Resource.ofPeerFrame?
  | failed _ => []
  | crashed => []

theorem PeerAnswer.contribution_eq (answer : PeerAnswer) :
    answer.texts.filterMap Resource.ofPeerFrame? = answer.contribution := by
  cases answer <;> rfl

/-- A task that talks to a server. What will come of it is settled, but not when. -/
structure PeerTask where
  /-- What comes of it. -/
  answer : PeerAnswer
  /-- Whether it has finished. -/
  finished : Bool

/-- A query that is being relayed. -/
structure Fanout where
  /-- What was found in the answers that were taken. -/
  found : List Resource
  /-- The tasks whose answers are still to be taken, in the order of their servers. -/
  tasks : List PeerTask

namespace Fanout

/-- All tasks are started at once. -/
def start (answers : List PeerAnswer) : Fanout :=
  { found := [], tasks := answers.map fun answer => ⟨answer, false⟩ }

/-- One step of a query that is being relayed. -/
inductive Step : Fanout → Fanout → Prop where
  /-- Any task finishes, no matter how far the others are. -/
  | finish (found : List Resource) (before after : List PeerTask) (answer : PeerAnswer) :
      Step ⟨found, before ++ ⟨answer, false⟩ :: after⟩ ⟨found, before ++ ⟨answer, true⟩ :: after⟩
  /-- The first task has finished, and its answer is taken. -/
  | take (found : List Resource) (tasks : List PeerTask) (answer : PeerAnswer) :
      Step ⟨found, ⟨answer, true⟩ :: tasks⟩ ⟨found ++ answer.contribution, tasks⟩

/-- A number of steps, one after the other. -/
inductive Run (f : Fanout) : Nat → Fanout → Prop where
  | rest : Run f 0 f
  | step {n : Nat} {g h : Fanout} (run : Run f n g) (step : g.Step h) : Run f (n + 1) h

/-- What is found once all answers are taken. -/
def merged (f : Fanout) : List Resource :=
  f.found ++ f.tasks.flatMap fun task => task.answer.contribution

/-- The number of steps that are left: every answer is still to be taken, and some tasks have not
finished yet. -/
def left (f : Fanout) : Nat := f.tasks.length + f.tasks.countP fun task => !task.finished

variable {f g : Fanout} {n : Nat} {answers : List PeerAnswer}

theorem merged_start (answers : List PeerAnswer) :
    (start answers).merged = answers.flatMap PeerAnswer.contribution := by
  rw [merged, start, List.flatMap_map, List.nil_append]

theorem left_start (answers : List PeerAnswer) : (start answers).left = 2 * answers.length := by
  have hunfinished :
      (start answers).tasks.countP (fun task => !task.finished) = answers.length := by
    rw [start, List.countP_map]
    exact List.countP_eq_length.mpr fun _ _ => rfl
  rw [left, hunfinished, start, List.length_map]
  omega

/-- No step changes what is found in the end. -/
theorem Step.merged_eq (h : f.Step g) : g.merged = f.merged := by
  cases h with
  | finish found before after answer => simp [merged]
  | take found tasks answer =>
    -- the contribution moves from the first task to the end of what was found
    simp [merged]

/-- Every step is one less to go. -/
theorem Step.left_eq (h : f.Step g) : f.left = g.left + 1 := by
  cases h with
  | finish found before after answer =>
    -- one task more has finished, wherever it stands
    simp [left]
    omega
  | take found tasks answer =>
    simp [left]
    omega

/-- Waiting for the first task is never in vain. -/
theorem exists_step (h : f.tasks ≠ []) : ∃ g, f.Step g := by
  obtain ⟨found, tasks⟩ := f
  cases tasks with
  | nil => exact absurd rfl h
  | cons task tasks =>
    obtain ⟨answer, finished⟩ := task
    -- the first task can finish whenever it has not yet
    cases finished with
    | false => exact ⟨_, .finish found [] tasks answer⟩
    | true => exact ⟨_, .take found tasks answer⟩

/-- As long as there are steps left, some answer is still to be taken. -/
theorem tasks_eq_nil_iff : f.tasks = [] ↔ f.left = 0 := by
  constructor
  · intro hnil
    rw [left, hnil]
    rfl
  · intro hleft
    apply List.eq_nil_of_length_eq_zero
    rw [left] at hleft
    omega

theorem Run.merged_eq (h : f.Run n g) : g.merged = f.merged := by
  induction h with
  | rest => rfl
  | step run step ih => exact step.merged_eq.trans ih

theorem Run.left_eq (h : f.Run n g) : f.left = n + g.left := by
  induction h with
  | rest => exact (Nat.zero_add _).symm
  | step run step ih =>
    have hleft := step.left_eq
    omega

/-- A run takes two steps for each server and no more. It goes on until it has taken them, and then
the contributions of the servers are joined in order. -/
theorem Run.complete (h : (start answers).Run n f) :
    n ≤ 2 * answers.length ∧ (n < 2 * answers.length → ∃ g, f.Step g) ∧
      (n = 2 * answers.length → f = ⟨answers.flatMap PeerAnswer.contribution, []⟩) := by
  have hleft := h.left_eq
  rw [left_start] at hleft
  refine ⟨by omega, fun hlt => ?_, fun heq => ?_⟩
  · -- a run that is stuck has no answers left to take, so it has made all its steps
    refine exists_step fun hnil => ?_
    have hzero := tasks_eq_nil_iff.mp hnil
    omega
  · have hnil : f.tasks = [] := tasks_eq_nil_iff.mpr (by omega)
    have hmerged := h.merged_eq
    rw [merged_start, merged, hnil, List.flatMap_nil, List.append_nil] at hmerged
    obtain ⟨found, tasks⟩ := f
    exact congrArg₂ Fanout.mk hmerged hnil

end Fanout

namespace Server

variable {s : Server} {turn : Turn} {t : Resource}

theorem relayed_eq (answers : List PeerAnswer) :
    relayed answers = answers.flatMap PeerAnswer.contribution := by
  simp only [relayed, PeerAnswer.contribution_eq]

/-- If the catalog works, a query to be relayed is answered. Where there is nobody to ask, the local
matches are all there is. -/
theorem reply_relay (h : s.catalog.poisoned = false)
    (hread : Call.read s.secret turn.text = .ok (.query true t)) :
    let peers := s.directory.others
    let request := (Request.query false (relayedTemplate t)).render
    s.reply turn =
      { answer := .ok (queryAnswer
          (s.matching t ++ relayed (peers.map (turn.connector · request))))
        server := s
        sent := peers.map (⟨·, request⟩) } := by
  intro peers request
  rw [reply_of_read hread, run_query h]
  by_cases hothers : peers = []
  · rw [if_neg fun hboth => hboth.2 hothers, hothers]
    simp only [conclude, List.map_nil, relayed, List.flatMap_nil, List.append_nil]
  · rw [if_pos ⟨rfl, hothers⟩]
    rfl

/-- A poisoned catalog makes a query fail before anybody is asked. -/
theorem reply_relay_of_poisoned (h : s.catalog.poisoned = true)
    (hread : Call.read s.secret turn.text = .ok (.query true t)) :
    s.reply turn = { answer := .error (.poisoned .read), server := s } := by
  rw [reply_of_read hread, run_query_of_poisoned h]
  rfl

/-- Whom a relayed query is sent to gets the template without its owner and its channel. -/
theorem request_of_sent (hread : Call.read s.secret turn.text = .ok (.query true t))
    {dispatch : Dispatch} (hsent : dispatch ∈ (s.reply turn).sent) :
    dispatch.request = (Request.query false (relayedTemplate t)).render := by
  cases hpoisoned : s.catalog.poisoned with
  | true =>
    rw [reply_relay_of_poisoned hpoisoned hread] at hsent
    cases hsent
  | false =>
    -- the dispatches differ in the peer alone
    rw [reply_relay hpoisoned hread] at hsent
    obtain ⟨peer, -, rfl⟩ := List.mem_map.mp hsent
    rfl

/-- A query to be relayed is answered with the success frame, the local matches, the resources that
can be read in the answers of the other servers, in the order in which these are known, and the
number of all of them, unless the catalog is poisoned. Nothing that another server does, be it that
it fails or makes its task crash, turns the query into an error. A client reads exactly the
resources that were found, with origin, owner and size as they were. It does not matter in which
order the tasks finish. All servers are sent the same text, and would have been if the template had
another owner and another channel. -/
theorem relay_answers (s : Server) (turn : Turn) (t : Resource)
    (hread : Call.read s.secret turn.text = .ok (.query true t)) :
    let peers := s.directory.others
    let request := (Request.query false (relayedTemplate t)).render
    let answers := peers.map (turn.connector · request)
    let others := answers.flatMap PeerAnswer.contribution
    let found := s.matching t ++ others
    let messages := .success :: found.map (fun r => .frame r.render) ++ [.resultSize found.length]
    s.reply turn =
      (if s.catalog.poisoned then { answer := .error (.poisoned .read), server := s }
      else { answer := .ok messages, server := s, sent := peers.map (⟨·, request⟩) }) ∧
    Message.resources messages = found ∧
    (∀ n f, (Fanout.start answers).Run n f →
      n ≤ 2 * peers.length ∧ (n < 2 * peers.length → ∃ g, f.Step g) ∧
        (n = 2 * peers.length → f = ⟨others, []⟩)) ∧
    ∀ (s' : Server) (turn' : Turn) (owner channel : String),
      Call.read s'.secret turn'.text = .ok (.query true { t with owner, channel }) →
      ∀ dispatch ∈ (s.reply turn).sent, ∀ dispatch' ∈ (s'.reply turn').sent,
        dispatch.request = dispatch'.request := by
  intro peers request answers others found messages
  have hfound : s.matching t ++ relayed answers = found :=
    congrArg (s.matching t ++ ·) (relayed_eq answers)
  have hlength : answers.length = peers.length := List.length_map _
  refine ⟨?_, resources_queryAnswer found, fun n f hrun => ?_, ?_⟩
  · split
    next hpoisoned => exact reply_relay_of_poisoned hpoisoned hread
    next hhealthy =>
      rw [reply_relay (Bool.eq_false_iff.mpr hhealthy) hread, hfound]
      rfl
  · rw [← hlength]
    exact hrun.complete
  · -- both texts are written from the same template, for its owner and channel are blanked
    intro s' turn' owner channel hread' dispatch hsent dispatch' hsent'
    rw [request_of_sent hread hsent, request_of_sent hread' hsent']
    rfl

/-- What another server lists, with its origin and the owner and the size that it gives. -/
def foreign : Resource := { uri := "x:z", owner := "o", origin := some "q:9", size := some 3 }

/-- A server that knows three others and lists one resource. -/
def neighbour : Server :=
  { secret := "s"
    catalog := { entries := [{ uri := "x:y", channel := "k" }] }
    directory := ⟨⟨"a", 1⟩, [⟨"a", 1⟩, ⟨"b", 1⟩, ⟨"c", 1⟩, ⟨"d", 1⟩]⟩ }

/-- The first task crashes, the second server answers with a text that cannot be read, a resource
and a status, and the third cannot be reached. -/
def mixedTurn : Turn :=
  { Turn.plain (.query true { channel := "k" }) with
    connector := fun peer _ =>
      if peer.hostname = "b" then .crashed
      else if peer.hostname = "c" then .frames ["?", foreign.render, Status.success.render]
      else .failed (.unreachable peer.origin) }

/-- The one resource that can be read is put behind the local one. -/
theorem relay_answers_mixed :
    (neighbour.reply mixedTurn).answer =
      .ok [.success, .frame (Resource.mk "" [] "" "x:y" "k" "" (some "a:1") none).render,
        .frame foreign.render, .resultSize 2] := by
  have hclean : ({ channel := "k" } : Resource).normalized = { channel := "k" } := by
    decide +kernel
  have hread : Call.read neighbour.secret mixedTurn.text =
      .ok (.query true { channel := "k" }) := by
    have hwritten := Call.read_render_query "s" true { channel := "k" } (by decide +kernel)
    rw [hclean] at hwritten
    exact hwritten
  obtain ⟨hreply, -⟩ := relay_answers neighbour mixedTurn { channel := "k" } hread
  have hlocal : neighbour.matching { channel := "k" } =
      [Resource.mk "" [] "" "x:y" "k" "" (some "a:1") none] := by
    decide +kernel
  have hothers : (neighbour.directory.others.map (mixedTurn.connector · (Request.query false
      (relayedTemplate { channel := "k" })).render)).flatMap PeerAnswer.contribution =
        [foreign] := by
    have hknown : neighbour.directory.others = [⟨"b", 1⟩, ⟨"c", 1⟩, ⟨"d", 1⟩] := by decide
    have hgarbled : Resource.ofPeerFrame? "?" = none := by decide +kernel
    simp [hknown, mixedTurn, PeerAnswer.contribution, hgarbled, Resource.ofPeerFrame?_render,
      Resource.ofPeerFrame?_success]
  rw [hreply, hlocal, hothers]
  rfl

end Server

end FederatedCatalog
