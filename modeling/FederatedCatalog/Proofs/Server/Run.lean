import FederatedCatalog.Proofs.Catalog.Ownership
import FederatedCatalog.Proofs.Message.RoundTrip
import FederatedCatalog.Proofs.Peer.Directory
import FederatedCatalog.Server.Processor

/-!
# Runs of a server

A server takes one request after the other, and whoever sends a request also chooses what the files
and the other servers look like while it is processed. This module says what each call does to a
server whose catalog works and lists no location twice, and that such servers stay so.

## Main definitions

* `Turn`, `Server.reply` and `Server.after`: a request with its surroundings, the reply to it, and
  the server after a run of turns;
* `Server.Sound`: the catalog works and lists no location twice;
* `OwnershipMap.apply` and `OwnershipMap.Change`: what a call comes to on an ownership map;
* `Server.Continues`: a server goes on as another one, with a given ownership map.

## Main results

* `Server.run_refines`: a call does to a sound server what it does to its ownership map;
* `Server.reply_cases`: how a sound server takes a request;
* `Server.sound_after`: the server is sound after every run from an empty catalog.
-/

namespace FederatedCatalog

/-! ### Turns -/

/-- A request, with the files and the other servers as they are while it is processed. -/
structure Turn where
  /-- The files. -/
  files : FileSystem
  /-- How other servers answer. -/
  connector : Connector
  /-- The text of the request. -/
  text : String

/-- A turn with a written request, when every path holds an empty file and no other server
answers. -/
def Turn.plain (q : Request) : Turn :=
  { files := fun _ => .file .empty, connector := fun _ _ => .crashed, text := q.render }

/-- The reply opens with the success frame. -/
def Reply.Succeeds (reply : Reply) : Prop :=
  ∃ messages, reply.answer = .ok (.success :: messages)

/-- A reply that is a rejection does not open with the success frame. -/
theorem Reply.not_succeeds_of_rejected {reply : Reply} {rejection : Rejection}
    (h : reply.answer = .ok [.rejected rejection]) : ¬ reply.Succeeds := by
  rintro ⟨messages, hmessages⟩
  rw [h, Except.ok.injEq, List.cons.injEq] at hmessages
  exact Message.rejected_ne_success rejection hmessages.1

/-- The step leads to a reply that opens with the success frame. -/
def Step.Succeeds : Step → Prop
  | .done messages _ => ∃ others, messages = .success :: others
  | .relay _ _ _ => True

namespace Server

/-- The reply to the request of a turn. -/
def reply (s : Server) (turn : Turn) : Reply := s.process turn.files turn.connector turn.text

/-- The server after a run of turns. -/
def after (s : Server) (turns : List Turn) : Server :=
  turns.foldl (fun s turn => (s.reply turn).server) s

/-- What holds of a server and is kept by every turn holds after every run. -/
theorem after_induction {P : Server → Prop} (hstep : ∀ s turn, P s → P (s.reply turn).server)
    (s : Server) (turns : List Turn) (h : P s) : P (s.after turns) := by
  induction turns generalizing s with
  | nil => exact h
  | cons turn turns ih =>
    -- the rest of the run begins at the server that the first turn leaves
    exact ih (s.reply turn).server (hstep s turn h)

end Server

/-! ### Calls on ownership maps -/

/-- What a call comes to on an ownership map: the map afterwards, or why the call is turned down.
The files matter to sharing and fetching only, and the origin is stamped on what is shared. -/
def OwnershipMap.apply (m : OwnershipMap) (origin : String) (files : FileSystem) :
    Call → Except Rejection OwnershipMap
  | .publish r => if m.Admits r then .ok (m.set r) else .error .cannotPublish
  | .remove r => if m.Holds r then .ok (m.erase r.location) else .error .cannotRemove
  | .share r path =>
    if (files path).fileSize?.isSome ∧ m.Admits r then .ok (m.set { r with origin := some origin })
    else .error .cannotShare
  | .fetch t path =>
    if m.get? t.location = none then .error .noMatchingResource
    else if (files path).fileSize? = none then .error .resourceMissing
    else .ok m
  | .query _ _ | .exchange _ => .ok m

namespace OwnershipMap

/-- What a call that succeeds may do to an ownership map. -/
inductive Change (m : OwnershipMap) (origin : String) : Call → OwnershipMap → Prop where
  /-- The map stays as it was. -/
  | keep (call : Call) : Change m origin call m
  /-- A resource is published. -/
  | publish (r : Resource) (admits : m.Admits r) : Change m origin (.publish r) (m.set r)
  /-- A file is shared, with the origin stamped on it. -/
  | share (r : Resource) (path : Path) (admits : m.Admits r) :
      Change m origin (.share r path) (m.set { r with origin := some origin })
  /-- A resource is removed. -/
  | remove (r : Resource) (holds : m.Holds r) : Change m origin (.remove r) (m.erase r.location)

variable {m m' : OwnershipMap} {origin : String} {files : FileSystem} {call : Call}

/-- A call that succeeds changes the map in one of these ways. -/
theorem change_of_apply (h : m.apply origin files call = .ok m') : m.Change origin call m' := by
  cases call with
  | publish r =>
    by_cases hadmits : m.Admits r
    · rw [apply, if_pos hadmits] at h
      obtain rfl := Except.ok.inj h
      exact .publish r hadmits
    · rw [apply, if_neg hadmits] at h
      cases h
  | remove r =>
    by_cases hholds : m.Holds r
    · rw [apply, if_pos hholds] at h
      obtain rfl := Except.ok.inj h
      exact .remove r hholds
    · rw [apply, if_neg hholds] at h
      cases h
  | share r path =>
    by_cases hallowed : (files path).fileSize?.isSome ∧ m.Admits r
    · rw [apply, if_pos hallowed] at h
      obtain rfl := Except.ok.inj h
      exact .share r path hallowed.2
    · rw [apply, if_neg hallowed] at h
      cases h
  | fetch t path =>
    rw [apply] at h
    split at h
    · cases h
    · split at h
      · cases h
      · obtain rfl := Except.ok.inj h
        exact .keep _
  | query relay t | exchange servers =>
    obtain rfl := Except.ok.inj h
    exact .keep _

/-- Where an entry that stands after a call comes from: it was published or shared by the call, or
it stood there before and the call does not remove it. -/
theorem entry_cases {l : Location} {e : Resource} (h : m.apply origin files call = .ok m')
    (he : m'.get? l = some e) :
    (∃ r, call = .publish r ∧ e = r ∧ l = r.location) ∨
    (∃ r path, call = .share r path ∧ e = { r with origin := some origin } ∧ l = r.location) ∨
    (m.get? l = some e ∧ ∀ r, call = .remove r → l ≠ r.location) := by
  have hchange := change_of_apply h
  cases hchange with
  | keep =>
    -- a removal that succeeds changes the map, so this call is none
    refine .inr (.inr ⟨he, ?_⟩)
    rintro r rfl rfl
    rw [apply] at h
    split at h
    · have hmap := Except.ok.inj h
      rw [← hmap, get?_erase, if_pos rfl] at he
      cases he
    · cases h
  | publish r =>
    rw [get?_set] at he
    split at he
    next hl => exact .inl ⟨r, rfl, (Option.some.inj he).symm, hl⟩
    next => exact .inr (.inr ⟨he, fun _ hcall => by cases hcall⟩)
  | share r path =>
    rw [get?_set] at he
    split at he
    next hl => exact .inr (.inl ⟨r, path, rfl, (Option.some.inj he).symm, hl⟩)
    next => exact .inr (.inr ⟨he, fun _ hcall => by cases hcall⟩)
  | remove r =>
    rw [get?_erase] at he
    split at he
    · cases he
    next hl =>
      refine .inr (.inr ⟨he, ?_⟩)
      rintro r' hcall
      cases hcall
      exact hl

end OwnershipMap

namespace Server

/-! ### Sound servers -/

/-- The ownership map of the catalog. -/
def ownership (s : Server) : OwnershipMap := s.catalog.ownershipMap

/-- The catalog works and lists no location twice. -/
structure Sound (s : Server) : Prop where
  healthy : s.catalog.poisoned = false
  unambiguous : Catalog.Unambiguous s.catalog.entries

/-- `s'` is `s` with the ownership map `m`, and possibly with more servers in its directory. -/
structure Continues (s : Server) (m : OwnershipMap) (s' : Server) : Prop where
  sound : s'.Sound
  ownership_eq : s'.ownership = m
  secret_eq : s'.secret = s.secret
  directory_eq : ∃ peers, s'.directory = s.directory.addAll peers

/-- The server with a resource stored. -/
def storing (s : Server) (r : Resource) : Server :=
  { s with catalog := { s.catalog with entries := Catalog.place r s.catalog.entries } }

/-- The server with the version of a resource removed. -/
def removing (s : Server) (r : Resource) : Server :=
  { s with
    catalog := { s.catalog with entries := s.catalog.entries.eraseP (·.sameIdentity r) } }

/-- Copies, fit to be handed out, of the entries that meet a template. -/
def matching (s : Server) (t : Resource) : List Resource :=
  (s.catalog.entries.filter (·.matchedBy t)).map (·.sanitized s.origin)

variable {s : Server}

/-- A server that goes on keeps its name. -/
theorem Continues.self_eq {s' : Server} {m : OwnershipMap} (h : s.Continues m s') :
    s'.directory.self = s.directory.self := by
  obtain ⟨peers, hpeers⟩ := h.directory_eq
  rw [hpeers, Directory.addAll_self]

theorem Sound.continues (h : s.Sound) : s.Continues s.ownership s := ⟨h, rfl, rfl, [], rfl⟩

/-- Storing an admitted resource sets its entry. -/
theorem Sound.continues_storing (h : s.Sound) {r : Resource} (hadmits : s.ownership.Admits r) :
    s.Continues (s.ownership.set r) (s.storing r) where
  sound := ⟨h.healthy, Catalog.unambiguous_place h.unambiguous hadmits⟩
  ownership_eq := Catalog.mapOf_place h.unambiguous hadmits
  secret_eq := rfl
  directory_eq := ⟨[], rfl⟩

/-- Removing a resource that its owner holds erases its entry. -/
theorem Sound.continues_removing (h : s.Sound) {r : Resource} (hholds : s.ownership.Holds r) :
    s.Continues (s.ownership.erase r.location) (s.removing r) where
  sound := ⟨h.healthy, Catalog.unambiguous_eraseP h.unambiguous _⟩
  ownership_eq := Catalog.mapOf_eraseP h.unambiguous hholds
  secret_eq := rfl
  directory_eq := ⟨[], rfl⟩

/-! ### What each call does -/

/-- A catalog that works stores a resource unless another owner has an entry at its location. -/
theorem storeOwned_of_healthy (h : s.catalog.poisoned = false) (r : Resource)
    (conflict : Rejection) :
    s.storeOwned r conflict =
      if s.catalog.entries.any fun e => e.sameLocation r && e.owner != r.owner then
        .error (.rejected conflict)
      else .ok (.done [.success] (s.storing r)) := by
  rw [storeOwned, Catalog.hasConflict_eq_ok h, Catalog.store_eq_ok h]
  rfl

/-- A catalog that works removes a version exactly when it lists one. -/
theorem run_remove_of_healthy (h : s.catalog.poisoned = false) (files : FileSystem)
    (r : Resource) :
    s.run files (.remove r) =
      if s.catalog.entries.any (·.sameIdentity r) then .ok (.done [.success] (s.removing r))
      else .error (.rejected .cannotRemove) := by
  rw [run, Catalog.removeFirst_eq_ok h, ← List.isSome_find?]
  simp only [orFail, Except.mapError, bind, Except.bind]
  cases s.catalog.entries.find? (·.sameIdentity r) <;> rfl

/-- A resource is stored exactly when its owner may write at its location. -/
theorem storeOwned_eq (h : s.Sound) (r : Resource) (conflict : Rejection) :
    s.storeOwned r conflict =
      if s.ownership.Admits r then .ok (.done [.success] (s.storing r))
      else .error (.rejected conflict) := by
  have hconflict := Catalog.any_conflict_iff (r := r) h.unambiguous
  rw [storeOwned_of_healthy h.healthy]
  by_cases hadmits : s.ownership.Admits r
  · rw [if_pos hadmits, if_neg fun hany => hconflict.mp hany hadmits]
  · rw [if_neg hadmits, if_pos (hconflict.mpr hadmits)]

/-- A version is removed exactly when its owner holds its location. -/
theorem run_remove (h : s.Sound) (files : FileSystem) (r : Resource) :
    s.run files (.remove r) =
      if s.ownership.Holds r then .ok (.done [.success] (s.removing r))
      else .error (.rejected .cannotRemove) := by
  have hholds := Catalog.any_sameIdentity_iff (r := r) h.unambiguous
  rw [run_remove_of_healthy h.healthy]
  exact if_congr hholds rfl rfl

/-- A file is handed out exactly when something is listed at its location and the file is there. -/
theorem run_fetch (h : s.catalog.poisoned = false) (files : FileSystem) (t : Resource)
    (path : Path) :
    s.run files (.fetch t path) =
      match s.ownership.get? t.location with
      | none => .error (.rejected .noMatchingResource)
      | some stored =>
        match (files path).fileSize? with
        | none => .error (.rejected .resourceMissing)
        | some size =>
          .ok (.done [.success, .frame (s.description stored size).render, .file path size,
            .resultSize 1] s) := by
  -- owners do not matter here: what is looked for is an entry at the location
  have hlocation : (fun e : Resource => e.sameLocation t) =
      fun e => decide (e.location = t.location) := by
    ext e
    rw [Bool.eq_iff_iff, Resource.sameLocation_iff, decide_eq_true_iff]
  rw [run, Catalog.find?_eq_ok h, hlocation]
  rfl

/-- A query finds the entries that meet its template, and is relayed only if there is another
server. -/
theorem run_query (h : s.catalog.poisoned = false) (files : FileSystem) (relay : Bool)
    (t : Resource) :
    s.run files (.query relay t) =
      if relay ∧ s.directory.others ≠ [] then
        .ok (.relay (s.matching t) s.directory.others
          (Request.query false (relayedTemplate t)).render)
      else .ok (.done (queryAnswer (s.matching t)) s) := by
  rw [run, Catalog.query_eq_ok h]
  rfl

/-! ### Refinement -/

/-- The reply, once it is known how a request goes on. -/
def conclude (s : Server) (connector : Connector) : Except Refusal Step → Reply
  | .error (.rejected rejection) => { answer := .ok [.rejected rejection], server := s }
  | .error (.failed failure) => { answer := .error failure, server := s }
  | .ok (.done messages server) => { answer := .ok messages, server }
  | .ok (.relay found peers request) =>
    { answer := .ok (queryAnswer (found ++ relayed (peers.map (connector · request))))
      server := s
      sent := peers.map (⟨·, request⟩) }

/-- A request is begun, and the reply follows from how it goes on. -/
theorem process_eq_conclude (files : FileSystem) (connector : Connector) (text : String) :
    s.process files connector text = s.conclude connector (s.begin? files text) := by
  rw [process]
  split
  next hbegin => rw [hbegin, conclude]
  next hbegin => rw [hbegin, conclude]
  next hbegin => rw [hbegin, conclude]
  next hbegin => rw [hbegin, conclude]

theorem reply_eq_conclude (turn : Turn) :
    s.reply turn = s.conclude turn.connector (s.begin? turn.files turn.text) :=
  process_eq_conclude turn.files turn.connector turn.text

theorem begin?_of_read {text : String} {call : Call} (files : FileSystem)
    (hread : Call.read s.secret text = .ok call) : s.begin? files text = s.run files call := by
  rw [begin?, hread]

/-- The reply to a request that is read as a call follows from how the call goes on. -/
theorem reply_of_read {turn : Turn} {call : Call}
    (hread : Call.read s.secret turn.text = .ok call) :
    s.reply turn = s.conclude turn.connector (s.run turn.files call) := by
  rw [reply_eq_conclude, begin?_of_read turn.files hread]

/-- A request that is not read as a call is turned down, and that is all. -/
theorem reply_of_not_read {turn : Turn} {rejection : Rejection}
    (hread : Call.read s.secret turn.text = .error rejection) :
    s.reply turn = { answer := .ok [.rejected rejection], server := s } := by
  rw [reply_eq_conclude, begin?, hread]
  rfl

/-- The server after a step. -/
def next (s : Server) : Step → Server
  | .done _ s' => s'
  | .relay _ _ _ => s

/-- What came of a call on an ownership map is what came of it on a server: the server turns it down
for the same reason, or it succeeds and goes on with the same map. -/
inductive Refines (s : Server) : Except Rejection OwnershipMap → Except Refusal Step → Prop where
  /-- The call is turned down. -/
  | rejected (rejection : Rejection) : Refines s (.error rejection) (.error (.rejected rejection))
  /-- The call succeeds. -/
  | done {m : OwnershipMap} {step : Step} (succeeds : step.Succeeds)
      (continues : s.Continues m (s.next step)) : Refines s (.ok m) (.ok step)

/-- A call does to a sound server what it does to its ownership map. -/
theorem run_refines (h : s.Sound) (files : FileSystem) (call : Call) :
    s.Refines (s.ownership.apply s.origin files call) (s.run files call) := by
  cases call with
  | publish r =>
    rw [OwnershipMap.apply, run, storeOwned_eq h]
    by_cases hadmits : s.ownership.Admits r
    · rw [if_pos hadmits, if_pos hadmits]
      exact .done ⟨_, rfl⟩ (h.continues_storing hadmits)
    · rw [if_neg hadmits, if_neg hadmits]
      exact .rejected _
  | remove r =>
    rw [OwnershipMap.apply, run_remove h]
    by_cases hholds : s.ownership.Holds r
    · rw [if_pos hholds, if_pos hholds]
      exact .done ⟨_, rfl⟩ (h.continues_removing hholds)
    · rw [if_neg hholds, if_neg hholds]
      exact .rejected _
  | share r path =>
    -- the stamp is no part of the location or the owner, so it does not matter to who is admitted
    have hstamp : s.ownership.Admits { r with origin := some s.origin } ↔ s.ownership.Admits r :=
      Iff.rfl
    rw [OwnershipMap.apply, run, storeOwned_eq h]
    cases hsize : (files path).fileSize? with
    | none =>
      exact .rejected _
    | some size =>
      by_cases hadmits : s.ownership.Admits r
      · rw [if_pos ⟨rfl, hadmits⟩, if_neg (by simp), if_pos (hstamp.mpr hadmits)]
        exact .done ⟨_, rfl⟩ (h.continues_storing (hstamp.mpr hadmits))
      · rw [if_neg fun hboth => hadmits hboth.2, if_neg (by simp), if_neg (hstamp.not.mpr hadmits)]
        exact .rejected _
  | query relay t =>
    rw [OwnershipMap.apply, run_query h.healthy]
    -- whether it is relayed or not, a query leaves the server alone
    split
    · exact .done trivial h.continues
    · exact .done ⟨_, rfl⟩ h.continues
  | fetch t path =>
    -- the entry is looked up first, and the file only if there is an entry
    rw [OwnershipMap.apply, run_fetch h.healthy]
    cases s.ownership.get? t.location with
    | none => exact .rejected _
    | some stored =>
      cases (files path).fileSize? with
      | none => exact .rejected _
      | some size => exact .done ⟨_, rfl⟩ h.continues
  | exchange servers =>
    -- only the directory grows
    exact .done ⟨_, rfl⟩ ⟨⟨h.healthy, h.unambiguous⟩, rfl, rfl, servers, rfl⟩

/-- What a request comes to on an ownership map: it is read and then applied. -/
def specify (s : Server) (files : FileSystem) (text : String) : Except Rejection OwnershipMap :=
  (Call.read s.secret text).bind (s.ownership.apply s.origin files)

/-- A request does to a sound server what it does to its ownership map. -/
theorem begin?_refines (h : s.Sound) (files : FileSystem) (text : String) :
    s.Refines (s.specify files text) (s.begin? files text) := by
  rw [specify, begin?]
  cases Call.read s.secret text with
  | error rejection => exact .rejected rejection
  | ok call => exact run_refines h files call

/-- A request is turned down, answered with the reason and leaves the server as it was, or it is
read as a call that succeeds, and leads to the map that the call comes to. -/
theorem reply_cases (h : s.Sound) (turn : Turn) :
    (∃ rejection, s.specify turn.files turn.text = .error rejection ∧
      s.reply turn = { answer := .ok [.rejected rejection], server := s }) ∨
    ∃ call m, Call.read s.secret turn.text = .ok call ∧
      s.ownership.apply s.origin turn.files call = .ok m ∧
      (s.reply turn).Succeeds ∧ s.Continues m (s.reply turn).server := by
  have hrefines := begin?_refines h turn.files turn.text
  rw [reply_eq_conclude]
  generalize hspec : s.specify turn.files turn.text = specified at hrefines
  generalize s.begin? turn.files turn.text = begun at hrefines
  cases hrefines with
  | rejected rejection => exact .inl ⟨rejection, rfl, rfl⟩
  | @done m step succeeds continues =>
    -- there is a map, so the request was read as some call
    obtain ⟨call, hread, happly⟩ : ∃ call, Call.read s.secret turn.text = .ok call ∧
        s.ownership.apply s.origin turn.files call = .ok m := by
      rw [specify] at hspec
      cases hread : Call.read s.secret turn.text with
      | error rejection =>
        rw [hread] at hspec
        cases hspec
      | ok call =>
        rw [hread] at hspec
        exact ⟨call, rfl, hspec⟩
    refine .inr ⟨call, m, hread, happly, ?_⟩
    cases step with
    | done messages s' =>
      obtain ⟨others, rfl⟩ := succeeds
      exact ⟨⟨others, rfl⟩, continues⟩
    | relay found peers request => exact ⟨⟨_, rfl⟩, continues⟩

/-! ### Runs -/

/-- A turn leaves a server sound, with its secret and its name. -/
theorem continues_reply (h : s.Sound) (turn : Turn) :
    s.Continues (s.reply turn).server.ownership (s.reply turn).server := by
  obtain ⟨rejection, -, hreply⟩ | ⟨call, m, -, -, -, hcontinues⟩ := reply_cases h turn
  · rw [hreply]
    exact h.continues
  · exact { hcontinues with ownership_eq := rfl }

/-- A run leaves a server sound, with its secret and its name. -/
theorem continues_after (h : s.Sound) (turns : List Turn) :
    s.Continues (s.after turns).ownership (s.after turns) := by
  apply after_induction (P := fun s' => s.Continues s'.ownership s') _ s turns h.continues
  intro s' turn ih
  have hstep := continues_reply ih.sound turn
  obtain ⟨before, hbefore⟩ := ih.directory_eq
  obtain ⟨peers, hpeers⟩ := hstep.directory_eq
  refine ⟨hstep.sound, rfl, hstep.secret_eq.trans ih.secret_eq, before ++ peers, ?_⟩
  rw [hpeers, hbefore, Directory.addAll_append]

theorem sound_empty (secret : String) (directory : Directory) :
    (Server.mk secret {} directory).Sound := ⟨rfl, List.nodup_nil⟩

/-- A server is sound after every run from an empty catalog. -/
theorem sound_after (secret : String) (directory : Directory) (turns : List Turn) :
    ((Server.mk secret {} directory).after turns).Sound :=
  (continues_after (sound_empty secret directory) turns).sound

end Server

end FederatedCatalog
