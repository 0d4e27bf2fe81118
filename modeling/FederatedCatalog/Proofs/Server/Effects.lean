import FederatedCatalog.Proofs.Server.Run

/-!
# What calls do

A request is turned down, or it fails on a poisoned catalog, or it is read as a call that takes
effect. Only the last may change the server or make it talk to others. This holds of every server,
also of one that lists a location twice.

## Main definitions

* `Server.Effect`: the reply to a call that takes effect.

## Main results

* `Server.run_of_poisoned`: what comes of a call on a poisoned catalog;
* `Server.exists_template_of_relay`: what is asked of other servers;
* `Server.effect_cases`: what comes of a request;
* `Server.directory_reply`: what a request does to the list of known servers.
-/

namespace FederatedCatalog.Server

/-- A call takes effect with this reply. -/
inductive Effect (s : Server) (turn : Turn) : Call → Reply → Prop where
  | publish (r : Resource)
      (free : ¬ s.catalog.entries.any fun e => e.sameLocation r && e.owner != r.owner) :
      Effect s turn (.publish r) { answer := .ok [.success], server := s.storing r }
  | remove (r : Resource) (listed : s.catalog.entries.any (·.sameIdentity r)) :
      Effect s turn (.remove r) { answer := .ok [.success], server := s.removing r }
  /-- The origin is stamped on what is shared. -/
  | share (r : Resource) (path : Path) (present : (turn.files path).fileSize?.isSome)
      (free : ¬ s.catalog.entries.any fun e => e.sameLocation r && e.owner != r.owner) :
      Effect s turn (.share r path)
        { answer := .ok [.success], server := s.storing { r with origin := some s.origin } }
  /-- Nobody else is asked. -/
  | query (relay : Bool) (t : Resource) (alone : ¬ (relay = true ∧ s.directory.others ≠ [])) :
      Effect s turn (.query relay t) { answer := .ok (queryAnswer (s.matching t)), server := s }
  /-- Every other server is asked, and what they list follows the matches of the server itself. -/
  | relay (t : Resource) (request : String)
      (forwarded : request = (Request.query false (relayedTemplate t)).render) :
      Effect s turn (.query true t)
        { answer := .ok (queryAnswer
            (s.matching t ++ relayed (s.directory.others.map (turn.connector · request))))
          server := s
          sent := s.directory.others.map (⟨·, request⟩) }
  /-- The first entry at the location of the template is described, and its file follows. -/
  | fetch (t : Resource) (path : Path) (stored : Resource) (size : UInt64)
      (listed : s.ownership.get? t.location = some stored)
      (present : (turn.files path).fileSize? = some size) :
      Effect s turn (.fetch t path)
        { answer := .ok [.success, .frame (s.description stored size).render, .file path size,
            .resultSize 1]
          server := s }
  | exchange (servers : List Peer) :
      Effect s turn (.exchange servers)
        { answer := .ok [.success]
          server := { s with directory := s.directory.addAll servers } }

variable {s : Server}

/-- On a catalog that works a call is turned down or takes effect. -/
theorem effect_of_healthy (h : s.catalog.poisoned = false) (turn : Turn) (call : Call) :
    (∃ rejection, s.run turn.files call = .error (.rejected rejection)) ∨
      s.Effect turn call (s.conclude turn.connector (s.run turn.files call)) := by
  cases call with
  | publish r =>
    rw [run, storeOwned_of_healthy h]
    split
    · exact .inl ⟨_, rfl⟩
    next hfree => exact .inr (.publish r hfree)
  | remove r =>
    rw [run_remove_of_healthy h]
    split
    next hlisted => exact .inr (.remove r hlisted)
    · exact .inl ⟨_, rfl⟩
  | share r path =>
    rw [run, storeOwned_of_healthy h]
    -- the file is looked at before the catalog
    split
    · exact .inl ⟨_, rfl⟩
    next hpresent =>
      split
      · exact .inl ⟨_, rfl⟩
      next hfree =>
        refine .inr (.share r path ?_ hfree)
        simpa [Option.isSome_iff_ne_none] using hpresent
  | query relay t =>
    rw [run_query h]
    split
    next hrelay =>
      obtain ⟨rfl, -⟩ := hrelay
      exact .inr (.relay t _ rfl)
    next halone => exact .inr (.query relay t halone)
  | fetch t path =>
    rw [run_fetch h]
    cases hlisted : s.ownership.get? t.location with
    | none => exact .inl ⟨_, rfl⟩
    | some stored =>
      cases hpresent : (turn.files path).fileSize? with
      | none => exact .inl ⟨_, rfl⟩
      | some size => exact .inr (.fetch t path stored size hlisted hpresent)
  | exchange servers => exact .inr (.exchange servers)

section Poisoned

variable (h : s.catalog.poisoned = true)
include h

theorem read_of_poisoned : s.catalog.read = .error (.poisoned .read) := by
  rw [Catalog.read, if_pos h]

/-- On a poisoned catalog every call fails as soon as it gets to the catalog. Only the file of a call
to share is looked at before that, and an exchange never gets there. -/
theorem run_of_poisoned (files : FileSystem) (call : Call) :
    s.run files call =
      match call with
      | .publish _ | .query _ _ | .fetch _ _ => .error (.failed (.poisoned .read))
      | .remove _ => .error (.failed (.poisoned .write))
      | .share _ path =>
        if (files path).fileSize?.isNone then .error (.rejected .cannotShare)
        else .error (.failed (.poisoned .read))
      | .exchange servers =>
        .ok (.done [.success] { s with directory := s.directory.addAll servers }) := by
  have hread := read_of_poisoned h
  have hwrite : s.catalog.write = .error (.poisoned .write) := by rw [Catalog.write, if_pos h]
  -- what is stored is looked up first, to see whether another owner holds the location
  have hstore (r : Resource) (conflict : Rejection) :
      s.storeOwned r conflict = .error (.failed (.poisoned .read)) := by
    rw [storeOwned, Catalog.hasConflict, Catalog.any, hread]
    rfl
  cases call with
  | publish r => exact hstore r _
  | share r path => rw [run, hstore]
  | remove r =>
    rw [run, Catalog.removeFirst, hwrite]
    rfl
  | query relay t =>
    rw [run, Catalog.query, hread]
    rfl
  | fetch t path =>
    rw [run, Catalog.find?, hread]
    rfl
  | exchange servers => rfl

/-- A poisoned catalog makes a query fail. -/
theorem run_query_of_poisoned (files : FileSystem) (relay : Bool) (t : Resource) :
    s.run files (.query relay t) = .error (.failed (.poisoned .read)) :=
  run_of_poisoned h files _

/-- A poisoned catalog makes a fetch fail, whether there is a file or not. -/
theorem run_fetch_of_poisoned (files : FileSystem) (t : Resource) (path : Path) :
    s.run files (.fetch t path) = .error (.failed (.poisoned .read)) :=
  run_of_poisoned h files _

/-- On a poisoned catalog a call is turned down or fails, unless it is an exchange: that one does
not look at the catalog. -/
theorem refused_of_poisoned (files : FileSystem) (call : Call) :
    (∃ refusal, s.run files call = .error refusal) ∨ ∃ servers, call = .exchange servers := by
  rw [run_of_poisoned h]
  cases call with
  | publish | remove | query | fetch => exact .inl ⟨_, rfl⟩
  | share r path =>
    dsimp only
    split <;> exact .inl ⟨_, rfl⟩
  | exchange servers => exact .inr ⟨servers, rfl⟩

/-- On a poisoned catalog a call is turned down or fails, or it takes effect as an exchange. -/
theorem effect_of_poisoned (turn : Turn) (call : Call) :
    (∃ refusal, s.run turn.files call = .error refusal) ∨
      s.Effect turn call (s.conclude turn.connector (s.run turn.files call)) := by
  obtain hrefused | ⟨servers, rfl⟩ := refused_of_poisoned h turn.files call
  · exact .inl hrefused
  · exact .inr (.exchange servers)

end Poisoned

/-- A call that goes on takes effect. -/
theorem effect_of_run {turn : Turn} {call : Call} {step : Step}
    (h : s.run turn.files call = .ok step) :
    s.Effect turn call (s.conclude turn.connector (.ok step)) := by
  rw [← h]
  cases hpoisoned : s.catalog.poisoned with
  | false =>
    refine (effect_of_healthy hpoisoned turn call).resolve_left ?_
    rintro ⟨rejection, hrejected⟩
    cases h.symm.trans hrejected
  | true =>
    refine (effect_of_poisoned hpoisoned turn call).resolve_left ?_
    rintro ⟨refusal, hrefused⟩
    cases h.symm.trans hrefused

/-- Whom a server asks, it asks with a query that is not to be relayed any further. -/
theorem exists_template_of_relay {files : FileSystem} {call : Call} {found : List Resource}
    {peers : List Peer} {request : String}
    (h : s.run files call = .ok (.relay found peers request)) :
    ∃ t, request = (Request.query false t).render := by
  cases hpoisoned : s.catalog.poisoned with
  | true =>
    obtain ⟨refusal, hrefused⟩ | ⟨servers, rfl⟩ := refused_of_poisoned hpoisoned files call
    · cases h.symm.trans hrefused
    · cases h
  | false =>
    cases call with
    | query relay t =>
      rw [run_query hpoisoned] at h
      split at h
      · cases h
        exact ⟨_, rfl⟩
      · cases h
    | publish r =>
      rw [run, storeOwned_of_healthy hpoisoned] at h
      split at h <;> cases h
    | remove r =>
      rw [run_remove_of_healthy hpoisoned] at h
      split at h <;> cases h
    | share r path =>
      rw [run, storeOwned_of_healthy hpoisoned] at h
      split at h
      · cases h
      · split at h <;> cases h
    | fetch t path =>
      rw [run_fetch hpoisoned] at h
      split at h
      · cases h
      · split at h <;> cases h
    | exchange servers => cases h

/-- A request is turned down, or it fails because the catalog is poisoned, or it is read as a call
that takes effect. Only in the last case the server may change or send anything. -/
theorem effect_cases (s : Server) (turn : Turn) :
    (∃ rejection, s.reply turn = { answer := .ok [.rejected rejection], server := s }) ∨
    (∃ failure, s.catalog.poisoned = true ∧
      s.reply turn = { answer := .error failure, server := s }) ∨
    ∃ call, Call.read s.secret turn.text = .ok call ∧ s.Effect turn call (s.reply turn) := by
  cases hread : Call.read s.secret turn.text with
  | error rejection => exact .inl ⟨rejection, reply_of_not_read hread⟩
  | ok call =>
    rw [reply_of_read hread]
    cases hpoisoned : s.catalog.poisoned with
    | false =>
      obtain ⟨rejection, hrun⟩ | heffect := effect_of_healthy hpoisoned turn call
      · rw [hrun]
        exact .inl ⟨rejection, rfl⟩
      · exact .inr (.inr ⟨call, rfl, heffect⟩)
    | true =>
      obtain ⟨refusal, hrun⟩ | heffect := effect_of_poisoned hpoisoned turn call
      · rw [hrun]
        cases refusal with
        | rejected rejection => exact .inl ⟨rejection, rfl⟩
        | failed failure => exact .inr (.inl ⟨failure, rfl, rfl⟩)
      · exact .inr (.inr ⟨call, rfl, heffect⟩)

/-- A request adds the servers of an exchange to those that are known, and any other request leaves
them as they are. -/
theorem directory_reply (s : Server) (turn : Turn) :
    ∃ servers, (s.reply turn).server.directory = s.directory.addAll servers ∧
      (servers = [] ∨ Call.read s.secret turn.text = .ok (.exchange servers)) := by
  obtain ⟨rejection, hreply⟩ | ⟨failure, -, hreply⟩ | ⟨call, hread, heffect⟩ := s.effect_cases turn
  · exact ⟨[], by rw [hreply]; rfl, .inl rfl⟩
  · exact ⟨[], by rw [hreply]; rfl, .inl rfl⟩
  · generalize s.reply turn = reply at heffect
    cases heffect with
    | exchange servers => exact ⟨servers, rfl, .inr hread⟩
    -- no other command touches the directory
    | publish | remove | share | query | relay | fetch => exact ⟨[], rfl, .inl rfl⟩

end FederatedCatalog.Server
