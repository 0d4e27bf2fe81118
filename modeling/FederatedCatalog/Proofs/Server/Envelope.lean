import FederatedCatalog.Proofs.Server.Effects
import FederatedCatalog.Proofs.Server.Requests

/-!
# The shape of answers

Whatever text comes in, a server whose catalog works answers it, and a client can tell from the
first frame how to read the rest. A rejection is a single frame and leaves everything as it was.
Success opens with its own frame, and what follows depends on the command alone.

## Main definitions

* `Message.resources`: the resources that a client reads in messages;
* `Payload`: what a client finds behind the success frame of the answer to a command;
* `Reply.Rejects`, `Reply.Grants`: a reply that turns a request down, and one that grants it;
* `Command.Spares`: what a request with a command leaves of a server as it was.

## Main results

* `Server.resources_queryAnswer`: what a client reads in an answer to a query;
* `Server.Effect.grants` and `Server.Effect.spares`: a call that takes effect;
* `Server.reply_envelope`: every request is turned down or granted.
-/

namespace FederatedCatalog

/-- The resources that a client reads in messages: frames that are no resources are passed over. -/
def Message.resources (messages : List Message) : List Resource :=
  (messages.filterMap Message.text?).filterMap Resource.ofPeerFrame?

/-- What a client finds behind the success frame of the answer to a command. -/
inductive Payload : Command → List Message → Prop where
  /-- Nothing: the command is only acknowledged. -/
  | acknowledged (command : Command) (writes : command ∈ [.publish, .remove, .share, .exchange]) :
      Payload command []
  /-- Frames that are read as resources, and a frame that is read as their number. -/
  | listing (frames : List String) (count : String)
      (resources : ∀ frame ∈ frames, (Resource.ofPeerFrame? frame).isSome)
      (counted : ∀ n : UInt64, n.toNat = frames.length → Status.resultSize? count = some n) :
      Payload .query (frames.map .frame ++ [.frame count])
  /-- The description of a file, as many bytes of it as the description says, and the count of one
  resource. -/
  | handout (described : String) (r : Resource) (path : Path) (size : UInt64) (count : String)
      (resource : Resource.ofPeerFrame? described = some r) (size_eq : r.size = some size)
      (counted : Status.resultSize? count = some 1) :
      Payload .fetch [.frame described, .file path size, .frame count]

namespace Reply

/-- The reply turns a request down: its one frame is read as the text of a rejection and not as
success, the server is left as it was, and nobody else hears of it. -/
structure Rejects (reply : Reply) (s : Server) : Prop where
  answer : ∃ frame rejection, reply.answer = .ok [.frame frame] ∧
    Status.errorMessage? frame = some (Rejection.message rejection) ∧
    Status.isSuccess frame = false
  server_eq : reply.server = s
  sent_eq : reply.sent = []

/-- The reply grants a command: its first frame is read as success, and the payload of the command
follows. -/
def Grants (reply : Reply) (command : Command) : Prop :=
  ∃ frame payload, reply.answer = .ok (.frame frame :: payload) ∧
    Status.isSuccess frame = true ∧ Payload command payload

/-- A rejection is read as one. -/
theorem rejects_rejected (s : Server) (rejection : Rejection) :
    Rejects { answer := .ok [.rejected rejection], server := s } s where
  answer := ⟨_, rejection, rfl, Status.errorMessage?_error rejection,
    Status.isSuccess_error rejection⟩
  server_eq := rfl
  sent_eq := rfl

end Reply

/-- What a request with a command leaves of a server as it was: everything if it only reads, the
listed resources if it spreads servers, and the known servers otherwise. -/
def Command.Spares : Command → Server → Server → Prop
  | .query, s, s' | .fetch, s, s' => s' = s
  | .exchange, s, s' => s'.catalog = s.catalog
  | .publish, s, s' | .remove, s, s' | .share, s, s' => s'.directory = s.directory

theorem Command.spares_refl (command : Command) (s : Server) : command.Spares s s := by
  cases command <;> rfl

namespace Server

/-- The answer to a query is its payload behind the success frame, whatever was found and wherever
it comes from. -/
theorem payload_queryAnswer (found : List Resource) :
    ∃ payload, queryAnswer found = .success :: payload ∧ Payload .query payload := by
  refine ⟨(found.map Resource.render).map .frame ++ [.resultSize found.length], ?_, ?_⟩
  · rw [List.map_map]
    rfl
  · refine .listing _ _ (fun frame hframe => ?_) fun n hn => ?_
    · obtain ⟨r, -, rfl⟩ := List.mem_map.mp hframe
      rw [Resource.ofPeerFrame?_render]
      rfl
    · -- there are as many frames as resources
      rw [List.length_map] at hn
      rw [← hn]
      exact Status.resultSize?_resultSize n

/-- The resources that a client reads in an answer to a query are those that were found. -/
theorem resources_queryAnswer (found : List Resource) :
    Message.resources (queryAnswer found) = found := by
  have hframes : (queryAnswer found).filterMap Message.text? =
      Status.success.render :: (found.map Resource.render ++
        [(Status.resultSize found.length).render]) := by
    simp [queryAnswer, Message.success, Message.resultSize, Message.text?, List.filterMap_append,
      List.filterMap_map, Function.comp_def]
  -- the status and the count are no resources, so only the frames between them are left
  rw [Message.resources, hframes, List.filterMap_cons, Resource.ofPeerFrame?_success,
    List.filterMap_append, List.filterMap_map]
  have hcount : [(Status.resultSize found.length).render].filterMap Resource.ofPeerFrame? = [] := by
    rw [List.filterMap_cons, Resource.ofPeerFrame?_resultSize, List.filterMap_nil]
  have hresources : found.filterMap (Resource.ofPeerFrame? ∘ Resource.render) = found := by
    calc found.filterMap (Resource.ofPeerFrame? ∘ Resource.render)
        = found.filterMap some :=
          List.filterMap_congr fun r _ => Resource.ofPeerFrame?_render r
      _ = found := List.filterMap_some
  rw [hresources, hcount, List.append_nil]

/-- The resource that a client reads in an answer to a fetch is the description of the file. -/
theorem resources_handout (r : Resource) (path : Path) (size : UInt64) :
    Message.resources [.success, .frame r.render, .file path size, .resultSize 1] = [r] := by
  simp [Message.resources, Message.success, Message.resultSize, Message.text?,
    Resource.ofPeerFrame?_success, Resource.ofPeerFrame?_render, Resource.ofPeerFrame?_resultSize]

variable {s : Server} {turn : Turn} {call : Call} {reply : Reply}

/-- A call that takes effect grants its command. -/
theorem Effect.grants (h : s.Effect turn call reply) : reply.Grants call.command := by
  have hacknowledged (command : Command) (server : Server)
      (hwrites : command ∈ [.publish, .remove, .share, .exchange]) :
      Reply.Grants { answer := .ok [.success], server } command :=
    ⟨_, [], rfl, Status.isSuccess_success, .acknowledged command hwrites⟩
  have hlisted (found : List Resource) (server : Server) (sent : List Dispatch) :
      Reply.Grants { answer := .ok (queryAnswer found), server, sent } .query := by
    obtain ⟨payload, hanswer, hpayload⟩ := payload_queryAnswer found
    exact ⟨_, payload, congrArg Except.ok hanswer, Status.isSuccess_success, hpayload⟩
  cases h with
  | publish r => exact hacknowledged .publish _ (by decide)
  | remove r => exact hacknowledged .remove _ (by decide)
  | share r path => exact hacknowledged .share _ (by decide)
  | exchange servers => exact hacknowledged .exchange _ (by decide)
  | query relay t => exact hlisted (s.matching t) s []
  | relay t request => exact hlisted _ s _
  | fetch t path stored size =>
    refine ⟨_, _, rfl, Status.isSuccess_success, ?_⟩
    refine .handout _ (s.description stored size) path size _ ?_ rfl ?_
    · exact Resource.ofPeerFrame?_render _
    · exact Status.resultSize?_resultSize 1

/-- A call that takes effect spares what its command spares. -/
theorem Effect.spares (h : s.Effect turn call reply) : call.command.Spares s reply.server := by
  cases h <;> rfl

/-- A server whose catalog works answers every request, whatever its text, the files and the other
servers are. It turns the request down, or it grants the command that the request names; the first
frame tells which. A query or a fetch leaves the server as it was, an exchange leaves the listed
resources and every other request leaves the known servers as they were. -/
theorem reply_envelope (s : Server) (turn : Turn) (h : s.catalog.poisoned = false) :
    ((s.reply turn).Rejects s ∨
      ∃ command : Command, Incoming.command? turn.text = some command.name ∧
        (s.reply turn).Grants command) ∧
    ∀ command : Command, Incoming.command? turn.text = some command.name →
      command.Spares s (s.reply turn).server := by
  obtain ⟨rejection, hreply⟩ | ⟨failure, hpoisoned, -⟩ | ⟨call, hread, heffect⟩ :=
    effect_cases s turn
  · rw [hreply]
    exact ⟨.inl (Reply.rejects_rejected s rejection), fun command _ => command.spares_refl s⟩
  · -- only a poisoned catalog makes a server fail
    rw [h] at hpoisoned
    contradiction
  · have hnamed := (Call.repeats_of_read hread).command
    refine ⟨.inr ⟨call.command, hnamed, heffect.grants⟩, fun command hcommand => ?_⟩
    -- a text names no more than one command
    have hname : call.command.name = command.name :=
      Option.some.inj (hnamed.symm.trans hcommand)
    rw [← Command.name_injective hname]
    exact heffect.spares

/-- A server that lists a location for two owners. No run from an empty catalog leads to it. -/
def crowdedServer : Server :=
  { secret := "s"
    catalog := { entries := [{ uri := "x:y", owner := "a" }, { uri := "x:y", owner := "b" }] }
    directory := .start ⟨"a", 1⟩ }

/-- That server, too, grants a query and is left as it was. -/
theorem envelope_crowded :
    let reply := crowdedServer.reply (.plain (.query false {}))
    reply.Grants .query ∧ reply.server = crowdedServer := by
  intro reply
  have hread : Call.read crowdedServer.secret (Turn.plain (.query false {})).text =
      .ok (.query false {}) :=
    Call.read_render_query "s" false {} (by decide +kernel)
  have hanswer : reply.answer = .ok (queryAnswer (crowdedServer.matching {})) := by
    rw [show reply = _ from reply_of_read hread, run_query rfl]
    rfl
  have hquery : Incoming.command? (Turn.plain (.query false {})).text = some Command.query.name :=
    (Call.repeats_of_read hread).command
  obtain ⟨hreply, hspares⟩ := reply_envelope crowdedServer (.plain (.query false {})) rfl
  refine ⟨?_, hspares .query hquery⟩
  obtain ⟨⟨frame, rejection, hrejected, -, -⟩, -, -⟩ | ⟨command, hcommand, hgrants⟩ := hreply
  · -- a rejection is a single frame, and this answer has four
    have hfour : (queryAnswer (crowdedServer.matching {})).length = 4 := by decide +kernel
    rw [Except.ok.inj (hanswer.symm.trans hrejected), List.length_singleton] at hfour
    cases hfour
  · have hname := Option.some.inj (hquery.symm.trans hcommand)
    rw [Command.name_injective hname]
    exact hgrants

end Server

end FederatedCatalog
