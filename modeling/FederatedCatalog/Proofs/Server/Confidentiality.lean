import FederatedCatalog.Proofs.Server.Envelope
import FederatedCatalog.Proofs.Server.Simulation

/-!
# Owners stay hidden

Owners decide who may replace or remove an entry, and that is all that anybody learns of them. Two
servers whose entries differ in their owners only reply alike to every fetch and to every query that
asks for no owner: they put the same into their answers and send the same to other servers. Where an
answer describes an entry of the server itself, it names no owner or the mask.

## Main definitions

* `Resource.AlikeButOwner`, `Server.AlikeButOwners`: two resources or servers differ in owners only;
* `Incoming.ReadsOwnerless`: the request is a fetch or a query that asks for no owner;
* `Server.DescribesEntry`: a resource describes an entry of the server without naming its owner.

## Main results

* `Server.AlikeButOwners.run_query`, `Server.AlikeButOwners.run_fetch`: two such servers take a call
  alike;
* `Server.Effect.exists_own`: what an answer tells of the entries of the server itself;
* `Server.confidentiality`: replies do not depend on owners and do not name them.
-/

namespace FederatedCatalog

namespace Resource

/-- Two resources differ in nothing but their owners, and both have one or neither does. -/
structure AlikeButOwner (a b : Resource) : Prop where
  rest_eq : { a with owner := b.owner } = b
  owner_iff : a.owner = "" ↔ b.owner = ""

variable {a b t : Resource}

/-- The copies that are handed out do not show the difference. -/
theorem AlikeButOwner.sanitized_eq (h : a.AlikeButOwner b) (origin : String) :
    a.sanitized origin = b.sanitized origin := by
  obtain ⟨hrest, howner⟩ := h
  rw [← hrest, sanitized, sanitized]
  congr 1
  -- both owners are masked, or both resources have none
  by_cases ha : a.owner = ""
  · rw [ha, howner.mp ha]
  · have hb : b.owner ≠ "" := fun hb => ha (howner.mpr hb)
    rw [if_neg (by simpa using ha), if_neg (by simpa using hb)]

/-- A template that asks for no owner does not tell the difference. -/
theorem AlikeButOwner.matchedBy_eq (h : a.AlikeButOwner b) (ht : t.owner = "") :
    a.matchedBy t = b.matchedBy t := by
  have hempty : t.owner.isEmpty = true := by rw [ht]; rfl
  rw [← h.rest_eq]
  simp [matchedBy, wordingMatches, hempty]

theorem AlikeButOwner.location_eq (h : a.AlikeButOwner b) : a.location = b.location := by
  rw [← h.rest_eq]
  rfl

/-- The copy of a resource that is handed out names no owner or the mask. -/
theorem sanitized_owner (r : Resource) (origin : String) :
    (r.sanitized origin).owner = "" ∨ (r.sanitized origin).owner = ownerMask := by
  rw [sanitized]
  split
  next hempty => exact .inl (by simpa using hempty)
  next => exact .inr rfl

end Resource

namespace Incoming

/-- The request is a fetch, or it is a query whose template asks for no owner once it is
normalised. -/
def ReadsOwnerless (text : String) : Prop :=
  command? text = some Command.fetch.name ∨
    command? text = some Command.query.name ∧ ∀ t, subject? text = some t → t.owner = ""

end Incoming

namespace Server

/-- Two servers differ in nothing but the owners of their entries. -/
structure AlikeButOwners (s s' : Server) : Prop where
  secret_eq : s.secret = s'.secret
  directory_eq : s.directory = s'.directory
  poisoned_eq : s.catalog.poisoned = s'.catalog.poisoned
  entries : List.Forall₂ Resource.AlikeButOwner s.catalog.entries s'.catalog.entries

variable {s s' : Server}

namespace AlikeButOwners

theorem origin_eq (h : s.AlikeButOwners s') : s.origin = s'.origin := by
  rw [origin, origin, h.directory_eq]

/-- Both servers find the same for a template that asks for no owner. -/
theorem matching_eq (h : s.AlikeButOwners s') {t : Resource} (ht : t.owner = "") :
    s.matching t = s'.matching t := by
  have hmatched : List.Forall₂ Resource.AlikeButOwner
      (s.catalog.entries.filter (·.matchedBy t)) (s'.catalog.entries.filter (·.matchedBy t)) :=
    List.rel_filter (fun a b hab => by simp [hab.matchedBy_eq ht]) h.entries
  have hcopies : List.Forall₂ (· = ·) (s.matching t) (s'.matching t) := by
    rw [matching, matching, h.origin_eq]
    exact List.rel_map (fun a b hab => hab.sanitized_eq s'.origin) hmatched
  rwa [List.forall₂_eq_eq_eq] at hcopies

/-- Both servers list a location or neither does. -/
theorem get?_rel (h : s.AlikeButOwners s') (l : Location) :
    Option.Rel Resource.AlikeButOwner (s.ownership.get? l) (s'.ownership.get? l) := by
  show Option.Rel _ (s.catalog.entries.find? _) (s'.catalog.entries.find? _)
  -- an entry is found by its location, in which its owner has no part
  obtain ⟨-, -, -, hentries⟩ := h
  generalize s.catalog.entries = es, s'.catalog.entries = es' at hentries
  induction hentries with
  | nil => exact .none
  | cons hab _ ih =>
    rw [List.find?_cons, List.find?_cons, hab.location_eq]
    split
    · exact .some hab
    · exact ih

theorem description_eq (h : s.AlikeButOwners s') {a b : Resource} (hab : a.AlikeButOwner b)
    (size : UInt64) : s.description a size = s'.description b size := by
  rw [description, description, hab.sanitized_eq, h.origin_eq]

/-- Two servers take a query that asks for no owner alike. -/
theorem run_query (h : s.AlikeButOwners s') (files : FileSystem) (relay : Bool) {t : Resource}
    (ht : t.owner = "") :
    Alike AlikeButOwners (s.run files (.query relay t)) (s'.run files (.query relay t)) := by
  cases hpoisoned : s.catalog.poisoned with
  | true =>
    -- both catalogs are poisoned, so both servers fail
    rw [run_query_of_poisoned hpoisoned, run_query_of_poisoned (h.poisoned_eq ▸ hpoisoned)]
    exact .refused _
  | false =>
    rw [Server.run_query hpoisoned, Server.run_query (h.poisoned_eq ▸ hpoisoned), h.matching_eq ht,
      h.directory_eq]
    split
    · exact .relay _ _ _
    · exact .done _ h

/-- Two servers take a fetch alike. -/
theorem run_fetch (h : s.AlikeButOwners s') (files : FileSystem) (t : Resource) (path : Path) :
    Alike AlikeButOwners (s.run files (.fetch t path)) (s'.run files (.fetch t path)) := by
  cases hpoisoned : s.catalog.poisoned with
  | true =>
    rw [run_fetch_of_poisoned hpoisoned, run_fetch_of_poisoned (h.poisoned_eq ▸ hpoisoned)]
    exact .refused _
  | false =>
    rw [Server.run_fetch hpoisoned, Server.run_fetch (h.poisoned_eq ▸ hpoisoned)]
    have hget := h.get?_rel t.location
    generalize s.ownership.get? t.location = stored, s'.ownership.get? t.location = stored' at hget
    cases hget with
    | none => exact .refused _
    | some hab =>
      cases (files path).fileSize? with
      | none => exact .refused _
      | some size =>
        simp only [h.description_eq hab]
        exact .done _ h

/-- Two servers take a request alike that reads and asks for no owner. -/
theorem begin? (h : s.AlikeButOwners s') {turn : Turn}
    (hreads : Incoming.ReadsOwnerless turn.text) :
    Alike AlikeButOwners (s.begin? turn.files turn.text) (s'.begin? turn.files turn.text) := by
  refine .begin? h.secret_eq fun call hread => ?_
  have hnamed := (Call.repeats_of_read hread).command
  have hcommand {command : Command} (hcommand : Incoming.command? turn.text = some command.name) :
      call.command = command :=
    Incoming.command_unique hnamed hcommand
  obtain hfetch | ⟨hquery, howner⟩ := hreads
  · cases call with
    | fetch t path => exact h.run_fetch turn.files t path
    | publish | remove | share | query | exchange => cases hcommand hfetch
  · cases call with
    | query relay t => exact h.run_query turn.files relay (howner t (Call.subject?_of_read hread))
    | publish | remove | share | fetch | exchange => cases hcommand hquery

end AlikeButOwners

/-! ### What is told of entries -/

/-- The resource describes an entry of the server and names no owner or the mask. Origin and size
are what the server makes of them. -/
structure DescribesEntry (s : Server) (r : Resource) : Prop where
  owner : r.owner = "" ∨ r.owner = Resource.ownerMask
  entry : ∃ e ∈ s.catalog.entries,
    { r with owner := e.owner, origin := e.origin, size := e.size } = e

theorem describesEntry_of_mem_matching {t r : Resource} (hr : r ∈ s.matching t) :
    s.DescribesEntry r := by
  obtain ⟨e, he, rfl⟩ := List.mem_map.mp hr
  exact ⟨e.sanitized_owner s.origin, e, List.mem_of_mem_filter he, rfl⟩

theorem describesEntry_description {l : Location} {stored : Resource}
    (hlisted : s.ownership.get? l = some stored) (size : UInt64) :
    s.DescribesEntry (s.description stored size) :=
  ⟨.inr rfl, stored, List.mem_of_find?_eq_some hlisted, rfl⟩

/-- The resources in the answer to a call that takes effect are entries of the server itself,
without their owners, and then what the servers that were asked told. -/
theorem Effect.exists_own {turn : Turn} {call : Call} {reply : Reply} {messages : List Message}
    (h : s.Effect turn call reply) (hanswer : reply.answer = .ok messages) :
    ∃ own, Message.resources messages =
        own ++ relayed (reply.sent.map fun sent => turn.connector sent.peer sent.request) ∧
      ∀ r ∈ own, s.DescribesEntry r := by
  cases h with
  | publish | remove | share | exchange =>
    -- a command that writes is only acknowledged
    obtain rfl := Except.ok.inj hanswer
    refine ⟨[], ?_, by simp⟩
    exact List.filterMap_cons_none Resource.ofPeerFrame?_success
  | query relay t =>
    obtain rfl := Except.ok.inj hanswer
    refine ⟨s.matching t, ?_, fun r => describesEntry_of_mem_matching⟩
    rw [resources_queryAnswer, List.map_nil, relayed, List.flatMap_nil, List.append_nil]
  | relay t request =>
    obtain rfl := Except.ok.inj hanswer
    refine ⟨s.matching t, ?_, fun r => describesEntry_of_mem_matching⟩
    rw [resources_queryAnswer, List.map_map]
    rfl
  | fetch t path stored size hlisted =>
    obtain rfl := Except.ok.inj hanswer
    refine ⟨[s.description stored size], resources_handout _ path size, fun r hr => ?_⟩
    rw [List.mem_singleton.mp hr]
    exact describesEntry_description hlisted size

/-- Two servers that differ in the owners of their entries only, both of them having one or neither,
give the same answer to a fetch and to a query that asks for no owner, and send the same to other
servers. The resources in any answer are entries of the server itself, which name no owner or the
mask, and then what the servers that were asked told. -/
theorem confidentiality (s : Server) (turn : Turn) :
    (∀ s', s.AlikeButOwners s' → Incoming.ReadsOwnerless turn.text →
      (s.reply turn).answer = (s'.reply turn).answer ∧
        (s.reply turn).sent = (s'.reply turn).sent) ∧
    ∀ messages, (s.reply turn).answer = .ok messages →
      ∃ own, Message.resources messages = own ++
          relayed ((s.reply turn).sent.map fun sent => turn.connector sent.peer sent.request) ∧
        ∀ r ∈ own, s.DescribesEntry r := by
  refine ⟨fun s' halike hreads => ?_, fun messages hanswer => ?_⟩
  · obtain ⟨-, hsent, hanswer⟩ := (halike.begin? hreads).reply halike
    exact ⟨hanswer (.inl rfl), hsent⟩
  · obtain ⟨rejection, hreply⟩ | ⟨failure, -, hreply⟩ | ⟨call, -, heffect⟩ := effect_cases s turn
    · -- a rejection names no resource
      rw [hreply] at hanswer ⊢
      obtain rfl := Except.ok.inj hanswer
      refine ⟨[], ?_, by simp⟩
      exact List.filterMap_cons_none (Resource.ofPeerFrame?_error rejection)
    · rw [hreply] at hanswer
      cases hanswer
    · exact heffect.exists_own hanswer

/-- A server that lists one URI for an owner and knows another server. -/
def ownedServer (owner : String) : Server :=
  { secret := "s"
    catalog := { entries := [{ uri := "x:y", owner }] }
    directory := (Directory.start ⟨"a", 1⟩).addAll [⟨"b", 2⟩] }

/-- Whoever looks for everything, there and at the other server, does not learn who the owner is. -/
theorem confidentiality_owned :
    let browse := Turn.plain (.query true {})
    let reply := (ownedServer "u").reply browse
    (reply.answer = ((ownedServer "v").reply browse).answer ∧
      reply.sent = ((ownedServer "v").reply browse).sent) ∧
    ∃ messages, reply.answer = .ok messages ∧
      ∃ own, Message.resources messages = own ++
          relayed (reply.sent.map fun sent => browse.connector sent.peer sent.request) ∧
        ∀ r ∈ own, (ownedServer "u").DescribesEntry r := by
  intro browse reply
  have hread : Call.read (ownedServer "u").secret browse.text = .ok (.query true {}) :=
    Call.read_render_query "s" true {} (by decide +kernel)
  have hanswer : reply.answer = .ok (queryAnswer ((ownedServer "u").matching {} ++ [])) := by
    rw [show reply = _ from reply_of_read hread, run_query rfl]
    rfl
  have halike : (ownedServer "u").AlikeButOwners (ownedServer "v") :=
    ⟨rfl, rfl, rfl, .cons ⟨rfl, by decide⟩ .nil⟩
  have howner : ∀ t, Incoming.subject? browse.text = some t → t.owner = "" := by
    intro t ht
    obtain rfl := Option.some.inj (ht.symm.trans (Call.subject?_of_read hread))
    rfl
  obtain ⟨hsame, hown⟩ := confidentiality (ownedServer "u") browse
  refine ⟨hsame (ownedServer "v") halike ?_, _, hanswer, hown _ hanswer⟩
  exact .inr ⟨(Call.repeats_of_read hread).command, howner⟩

end Server

end FederatedCatalog
