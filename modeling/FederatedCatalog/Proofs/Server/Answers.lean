import FederatedCatalog.Proofs.Server.Calls
import FederatedCatalog.Proofs.Server.Effects

/-!
# Answers

What a server whose catalog works puts into its answer to a call that succeeds. The commands that
write are only acknowledged. A query lists resources, and a fetch hands out one file behind its
description.

## Main definitions

* `Server.Answered`: the messages that a call which succeeds is answered with.

## Main results

* `Server.Effect.answered`: a call that takes effect is answered;
* `Server.answer_cases`: a request is answered with a rejection, or its call is answered;
* `Server.exists_fetch_of_file_mem`: only a fetch hands out a file.
-/

namespace FederatedCatalog.Server

/-- The messages that a call which succeeds is answered with. -/
inductive Answered (s : Server) (files : FileSystem) : Call → List Message → Prop where
  | publish (r : Resource) : Answered s files (.publish r) [.success]
  | remove (r : Resource) : Answered s files (.remove r) [.success]
  | share (r : Resource) (path : Path) : Answered s files (.share r path) [.success]
  /-- The matches of other servers follow those of the server itself. -/
  | query (relay : Bool) (t : Resource) (others : List Resource)
      (alone : s.directory.others = [] → others = []) :
      Answered s files (.query relay t) (queryAnswer (s.matching t ++ others))
  /-- The description is that of the entry at the location of the template. -/
  | fetch (t : Resource) (path : Path) (stored : Resource) (size : UInt64)
      (listed : s.ownership.get? t.location = some stored)
      (present : (files path).fileSize? = some size) :
      Answered s files (.fetch t path)
        [.success, .frame (s.description stored size).render, .file path size, .resultSize 1]
  | exchange (servers : List Peer) : Answered s files (.exchange servers) [.success]

variable {s : Server} {files : FileSystem} {call : Call}

/-- A call that takes effect is answered. -/
theorem Effect.answered {turn : Turn} {reply : Reply} (h : s.Effect turn call reply) :
    ∃ messages, reply.answer = .ok messages ∧ s.Answered turn.files call messages := by
  cases h with
  | publish r => exact ⟨_, rfl, .publish r⟩
  | remove r => exact ⟨_, rfl, .remove r⟩
  | share r path => exact ⟨_, rfl, .share r path⟩
  | query relay t =>
    -- nobody else is asked, so the local matches are the whole answer
    refine ⟨_, rfl, ?_⟩
    simpa using Answered.query relay t [] fun _ => rfl
  | relay t request =>
    refine ⟨_, rfl, .query true t _ fun hnone => ?_⟩
    rw [hnone]
    rfl
  | fetch t path stored size hlisted hpresent =>
    exact ⟨_, rfl, .fetch t path stored size hlisted hpresent⟩
  | exchange servers => exact ⟨_, rfl, .exchange servers⟩

/-- A sound server answers a request with a rejection, or it reads the request as a call and answers
that. -/
theorem answer_cases (h : s.Sound) (turn : Turn) :
    (∃ rejection, (s.reply turn).answer = .ok [.rejected rejection]) ∨
    ∃ call messages, Call.read s.secret turn.text = .ok call ∧
      (s.reply turn).answer = .ok messages ∧ s.Answered turn.files call messages := by
  obtain ⟨rejection, hreply⟩ | ⟨failure, hpoisoned, -⟩ | ⟨call, hread, heffect⟩ :=
    effect_cases s turn
  · exact .inl ⟨rejection, congrArg Reply.answer hreply⟩
  · rw [h.healthy] at hpoisoned
    cases hpoisoned
  · obtain ⟨messages, hanswer, hanswered⟩ := heffect.answered
    exact .inr ⟨call, messages, hread, hanswer, hanswered⟩

/-- The answer to a query is made of frames. -/
theorem file_notMem_queryAnswer (found : List Resource) (path : Path) (size : UInt64) :
    .file path size ∉ queryAnswer found := by
  simp [queryAnswer, Message.success, Message.resultSize]

/-- Only a fetch hands out a file, and only one that is listed. -/
theorem exists_fetch_of_file_mem (h : s.Sound) {turn : Turn} {messages : List Message}
    {path : Path} {size : UInt64} (hanswer : (s.reply turn).answer = .ok messages)
    (hfile : .file path size ∈ messages) :
    ∃ t stored, Call.read s.secret turn.text = .ok (.fetch t path) ∧
      s.ownership.get? t.location = some stored := by
  obtain ⟨rejection, hrejected⟩ | ⟨call, messages', hread, hanswer', hanswered⟩ :=
    answer_cases h turn
  · obtain rfl := Except.ok.inj (hanswer.symm.trans hrejected)
    simp [Message.rejected] at hfile
  · obtain rfl := Except.ok.inj (hanswer.symm.trans hanswer')
    cases hanswered with
    | query relay t others => exact absurd hfile (file_notMem_queryAnswer _ path size)
    | fetch t path' stored size' hlisted =>
      have hpath : path = path' := by
        simp only [Message.success, Message.resultSize, List.mem_cons, Message.file.injEq,
          reduceCtorEq, List.not_mem_nil, or_false, false_or] at hfile
        exact hfile.1
      exact ⟨t, stored, hpath ▸ hread, hlisted⟩
    | publish | remove | share | exchange => simp [Message.success] at hfile

end FederatedCatalog.Server
