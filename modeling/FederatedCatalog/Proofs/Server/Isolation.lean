import FederatedCatalog.Proofs.Catalog.Channels
import FederatedCatalog.Proofs.Server.Provenance
import FederatedCatalog.Proofs.Server.Simulation

/-!
# Channels do not interfere

All channels share one list, yet who works in one of them cannot tell what happens in the others.
When every request that names another channel is left out of a run, the requests that remain get the
replies that they got before.

## Main definitions

* `Turn.isWithin`: the request of a turn names no other channel;
* `Server.AgreesWithin`: two servers list the same in one channel;
* `Event.RepliedAlike`: two events with the same request are replied to alike.

## Main results

* `Server.AgreesWithin.run`: the step of two servers that take a call of the channel;
* `Server.AgreesWithin.strays`: the step of one server that takes a request of another channel;
* `Server.isolation_run`: the run.
-/

namespace FederatedCatalog

/-! ### Requests of a channel -/

namespace Turn

/-- The request of a turn names this channel or none. -/
def isWithin (channel : String) (turn : Turn) : Bool :=
  (Incoming.channel? turn.text).all (· == channel)

/-- Two turns have the same request and the same files, whatever the other servers do. -/
structure SameRequest (a b : Turn) : Prop where
  text_eq : a.text = b.text
  files_eq : a.files = b.files

variable {channel secret : String} {turn : Turn} {call : Call}

/-- A call that was read within a channel is about a resource of that channel. -/
theorem channel_eq_of_isWithin (h : turn.isWithin channel = true)
    (hread : Call.read secret turn.text = .ok call) :
    ∀ r, call.subject? = some r → r.channel = channel := by
  intro r hr
  rw [isWithin, Incoming.channel?, Call.subject?_of_read hread, hr] at h
  simpa using h

/-- A call that was read outside of a channel is about a resource of another one. -/
theorem channel_ne_of_not_isWithin (h : ¬ turn.isWithin channel = true)
    (hread : Call.read secret turn.text = .ok call) :
    ∃ r, call.subject? = some r ∧ r.channel ≠ channel := by
  rw [isWithin, Incoming.channel?, Call.subject?_of_read hread] at h
  cases hr : call.subject? with
  | none => simp [hr] at h
  | some r => exact ⟨r, rfl, by simpa [hr] using h⟩

end Turn

/-- Two events have the same request. The same is sent to other servers, and the same answer is
given unless the request is relayed to servers that may answer differently. -/
structure Event.RepliedAlike (a b : Event) : Prop where
  request : a.turn.SameRequest b.turn
  sent_eq : a.reply.sent = b.reply.sent
  answer_eq : ¬ Incoming.Relays a.turn.text ∨ a.turn.connector = b.turn.connector →
    a.reply.answer = b.reply.answer

namespace Server

/-! ### Servers that agree within a channel -/

/-- Two servers have one secret and one directory, their catalogs work, and they list the same
entries in the same order in the channel. -/
structure AgreesWithin (channel : String) (s s' : Server) : Prop where
  secret_eq : s.secret = s'.secret
  directory_eq : s.directory = s'.directory
  healthy_left : s.catalog.poisoned = false
  healthy_right : s'.catalog.poisoned = false
  entries_eq : Catalog.within channel s.catalog.entries = Catalog.within channel s'.catalog.entries

variable {channel : String} {s s' : Server}

namespace AgreesWithin

theorem origin_eq (h : AgreesWithin channel s s') : s.origin = s'.origin := by
  rw [origin, origin, h.directory_eq]

/-- Both servers store a resource of the channel. -/
theorem storing (h : AgreesWithin channel s s') {r : Resource} (hr : r.channel = channel) :
    AgreesWithin channel (s.storing r) (s'.storing r) where
  secret_eq := h.secret_eq
  directory_eq := h.directory_eq
  healthy_left := h.healthy_left
  healthy_right := h.healthy_right
  entries_eq := by
    simp only [Server.storing]
    rw [Catalog.within_place hr, Catalog.within_place hr, h.entries_eq]

/-- Both servers remove a resource of the channel. -/
theorem removing (h : AgreesWithin channel s s') {r : Resource} (hr : r.channel = channel) :
    AgreesWithin channel (s.removing r) (s'.removing r) where
  secret_eq := h.secret_eq
  directory_eq := h.directory_eq
  healthy_left := h.healthy_left
  healthy_right := h.healthy_right
  entries_eq := by
    have hidentity : Catalog.OnlyWithin channel (·.sameIdentity r) :=
      hr ▸ Catalog.onlyWithin_sameIdentity r
    simp only [Server.removing]
    rw [Catalog.within_eraseP hidentity, Catalog.within_eraseP hidentity, h.entries_eq]

/-- A resource of the channel is stored in both servers or turned down by both. -/
theorem storeOwned (h : AgreesWithin channel s s') {r : Resource} (hr : r.channel = channel)
    (conflict : Rejection) :
    Alike (AgreesWithin channel) (s.storeOwned r conflict) (s'.storeOwned r conflict) := by
  have hconflict : Catalog.OnlyWithin channel fun e => e.sameLocation r && e.owner != r.owner :=
    hr ▸ Catalog.onlyWithin_conflict r
  -- an owner who is in the way is in the way within the channel, so both servers see them
  rw [storeOwned_of_healthy h.healthy_left, storeOwned_of_healthy h.healthy_right,
    ← Catalog.any_within hconflict, h.entries_eq, Catalog.any_within hconflict]
  split
  · exact .refused _
  · exact .done _ (h.storing hr)

/-- Both servers find the same for a template of the channel. -/
theorem matching_eq (h : AgreesWithin channel s s') {t : Resource} (ht : t.channel = channel) :
    s.matching t = s'.matching t := by
  have hmatched : Catalog.OnlyWithin channel (·.matchedBy t) := ht ▸ Catalog.onlyWithin_matchedBy t
  rw [matching, matching, ← Catalog.filter_within hmatched, h.entries_eq,
    Catalog.filter_within hmatched, h.origin_eq]

/-- Two servers take a call of the channel alike and still agree within the channel. -/
theorem run (h : AgreesWithin channel s s') (files : FileSystem) (call : Call)
    (hsubject : ∀ r, call.subject? = some r → r.channel = channel) :
    Alike (AgreesWithin channel) (s.run files call) (s'.run files call) := by
  cases call with
  | publish r => exact h.storeOwned (hsubject r rfl) _
  | remove r =>
    have hr := hsubject r rfl
    have hidentity : Catalog.OnlyWithin channel (·.sameIdentity r) :=
      hr ▸ Catalog.onlyWithin_sameIdentity r
    rw [run_remove_of_healthy h.healthy_left, run_remove_of_healthy h.healthy_right,
      ← Catalog.any_within hidentity, h.entries_eq, Catalog.any_within hidentity]
    split
    · exact .done _ (h.removing hr)
    · exact .refused _
  | share r path =>
    -- the same name is stamped on the resource, and the stamp does not move it to another channel
    rw [Server.run, Server.run, h.origin_eq]
    split
    · exact .refused _
    · exact h.storeOwned (r := { r with origin := some s'.origin }) (hsubject r rfl) _
  | query relay t =>
    rw [run_query h.healthy_left, run_query h.healthy_right, h.directory_eq,
      h.matching_eq (hsubject t rfl)]
    split
    · exact .relay _ _ _
    · exact .done _ h
  | fetch t path =>
    -- what is handed out is the first entry at a location of the channel
    have hget : s.ownership.get? t.location = s'.ownership.get? t.location := by
      rw [ownership, ownership, Catalog.ownershipMap, Catalog.ownershipMap,
        ← Catalog.get?_within (hsubject t rfl), h.entries_eq, Catalog.get?_within (hsubject t rfl)]
    rw [run_fetch h.healthy_left, run_fetch h.healthy_right, hget]
    cases s'.ownership.get? t.location with
    | none => exact .refused _
    | some stored =>
      cases (files path).fileSize? with
      | none => exact .refused _
      | some size =>
        simp only [description, h.origin_eq]
        exact .done _ h
  | exchange servers =>
    refine .done _ { h with directory_eq := ?_ }
    show s.directory.addAll servers = s'.directory.addAll servers
    rw [h.directory_eq]

/-- Two servers reply alike to a request of the channel and still agree within it. -/
theorem reply (h : AgreesWithin channel s s') {a b : Turn} (hab : a.SameRequest b)
    (hwithin : a.isWithin channel = true) :
    AgreesWithin channel (s.reply a).server (s'.reply b).server ∧
      Event.RepliedAlike ⟨s, a⟩ ⟨s', b⟩ := by
  have halike : Alike (AgreesWithin channel) (s.begin? a.files a.text)
      (s'.begin? b.files b.text) := by
    rw [← hab.text_eq, ← hab.files_eq]
    exact .begin? h.secret_eq fun call hread =>
      h.run a.files call (Turn.channel_eq_of_isWithin hwithin hread)
  obtain ⟨hagrees, hsent, hanswer⟩ := halike.reply h
  refine ⟨hagrees, hab, hsent, fun hothers => hanswer ?_⟩
  obtain hrelays | hconnector := hothers
  · -- whatever is no query to be relayed is not sent to anybody
    right
    by_contra hne
    exact hrelays (relays_of_sent_ne_nil hne)
  · exact .inl hconnector

/-- A server that takes a request of another channel goes on to agree within this one. -/
theorem strays (h : AgreesWithin channel s s') {turn : Turn}
    (hstrays : ¬ turn.isWithin channel = true) :
    AgreesWithin channel (s.reply turn).server s' := by
  obtain ⟨rejection, hreply⟩ | ⟨failure, -, hreply⟩ | ⟨call, hread, heffect⟩ := effect_cases s turn
  · rw [hreply]
    exact h
  · rw [hreply]
    exact h
  · obtain ⟨r, hr, hne⟩ := Turn.channel_ne_of_not_isWithin hstrays hread
    -- whatever origin is stamped on it, the resource is stored in its own channel
    have hstored (origin : Option String) :
        AgreesWithin channel (s.storing { r with origin := origin }) s' :=
      { h with
        entries_eq := (Catalog.within_place_of_ne (r := { r with origin := origin }) hne).trans
          h.entries_eq }
    generalize s.reply turn = reply at heffect
    cases heffect with
    | publish r' =>
      obtain rfl := Option.some.inj hr
      exact hstored r'.origin
    | share r' path =>
      obtain rfl := Option.some.inj hr
      exact hstored (some s.origin)
    | remove r' =>
      obtain rfl := Option.some.inj hr
      have hidentity := Catalog.onlyWithin_sameIdentity r'
      exact { h with entries_eq := (Catalog.within_eraseP_of_ne hidentity hne).trans h.entries_eq }
    | query | relay | fetch => exact h
    | exchange => cases hr

/-! ### Runs -/

/-- Two servers that agree within a channel reply alike to the requests of the channel, although one
of them takes requests of other channels in between. -/
theorem trace_filter (h : AgreesWithin channel s s') {turns turns' : List Turn}
    (hturns : List.Forall₂ Turn.SameRequest (turns.filter (·.isWithin channel)) turns') :
    List.Forall₂ Event.RepliedAlike ((s.trace turns).filter (·.turn.isWithin channel))
      (s'.trace turns') := by
  -- along the run that takes every request, with both servers and the other run left free
  induction turns generalizing s s' turns' with
  | nil =>
    cases hturns
    exact .nil
  | cons turn turns ih =>
    by_cases hwithin : turn.isWithin channel = true
    · -- the other server takes the request, too
      rw [List.filter_cons_of_pos hwithin] at hturns
      obtain ⟨turn', rest, hab, hrest, rfl⟩ := List.forall₂_cons_left_iff.mp hturns
      obtain ⟨hagrees, halike⟩ := h.reply hab hwithin
      rw [trace, trace, List.filter_cons_of_pos (by exact hwithin)]
      exact .cons halike (ih hagrees hrest)
    · -- the other server does not see the request and has nothing to do
      rw [List.filter_cons_of_neg hwithin] at hturns
      rw [trace, List.filter_cons_of_neg (by exact hwithin)]
      exact ih (h.strays hwithin) hturns

end AgreesWithin

/-- Take a run from an empty catalog, and another one in which the requests that name another
channel are left out. All other requests are replied to alike in both of them: the same is sent to
other servers, and the same answer is given unless the request is a query that is relayed to servers
that answer it differently. -/
theorem isolation_run (secret : String) (directory : Directory) (channel : String)
    (turns turns' : List Turn)
    (hturns : List.Forall₂ Turn.SameRequest (turns.filter (·.isWithin channel)) turns') :
    List.Forall₂ Event.RepliedAlike
      (((Server.mk secret {} directory).trace turns).filter (·.turn.isWithin channel))
      ((Server.mk secret {} directory).trace turns') := by
  have hagrees : AgreesWithin channel (Server.mk secret {} directory)
      (Server.mk secret {} directory) := ⟨rfl, rfl, rfl, rfl, rfl⟩
  exact hagrees.trace_filter hturns

/-- A turn that publishes one URI in a channel. -/
def posting (channel : String) : Turn := .plain (.publish { uri := "x:y", channel })

/-- A turn that asks for all that is listed in a channel. -/
def browsing (channel : String) : Turn := .plain (.query false { channel })

/-- Who publishes in a channel and looks what is listed there cannot tell that the same URI is
published in another channel meanwhile. -/
theorem isolation_posting :
    List.Forall₂ Event.RepliedAlike
      ((plainServer.trace [posting "b", posting "a", posting "b", browsing "a"]).filter
        (·.turn.isWithin "a"))
      (plainServer.trace [posting "a", browsing "a"]) := by
  have hother : ¬ (posting "b").isWithin "a" = true := by decide +kernel
  have hposting : (posting "a").isWithin "a" = true := by decide +kernel
  have hbrowsing : (browsing "a").isWithin "a" = true := by decide +kernel
  refine isolation_run "s" (.start ⟨"a", 1⟩) "a" _ [posting "a", browsing "a"] ?_
  rw [List.filter_cons_of_neg hother, List.filter_cons_of_pos hposting,
    List.filter_cons_of_neg hother, List.filter_cons_of_pos hbrowsing, List.filter_nil]
  exact .cons ⟨rfl, rfl⟩ (.cons ⟨rfl, rfl⟩ .nil)

end Server

end FederatedCatalog
