import FederatedCatalog.Proofs.Server.Run

/-!
# Ownership

A server that starts with an empty catalog keeps an ownership map, whatever requests come in: a
location belongs to the owner who listed something there first, until they remove it. The catalog
has no such rule of its own. It stores what it is given, and the rule is that of the requests.

## Main definitions

* `Call.claimed?`: the resource that a call wants to write or remove;
* `Server.Represents`: the catalog of a server lists an ownership map.

## Main results

* `OwnershipMap.Change.claimed?_of_ne`: who changes an entry claims its location and bears its
  owner;
* `Server.ownership_run`: every request of a run does to the catalog what it does to the map.
-/

namespace FederatedCatalog

/-- The resource that a call wants to write or remove in the name of its owner. -/
def Call.claimed? : Call → Option Resource
  | .publish r | .remove r | .share r _ => some r
  | .query _ _ | .fetch _ _ | .exchange _ => none

namespace OwnershipMap

variable {m m' : OwnershipMap} {origin : String} {call : Call} {l : Location} {e r : Resource}

/-- An entry at the location of an admitted resource has its owner. -/
theorem Admits.owner_eq (h : m.Admits r) (he : m.get? l = some e) (hl : l = r.location) :
    r.owner = e.owner := by
  subst hl
  exact (h e he).symm

/-- An entry at a location that is held has the owner of the holder. -/
theorem Holds.owner_eq (h : m.Holds r) (he : m.get? l = some e) (hl : l = r.location) :
    r.owner = e.owner := by
  subst hl
  obtain ⟨d, hd, howner⟩ := h
  obtain rfl := Option.some.inj (he.symm.trans hd)
  exact howner.symm

/-- An entry changes only by a call that claims its location in the name of its owner. -/
theorem Change.claimed?_of_ne (h : m.Change origin call m') (he : m.get? l = some e)
    (hne : m'.get? l ≠ some e) :
    ∃ r, call.claimed? = some r ∧ r.location = l ∧ r.owner = e.owner := by
  -- away from the claimed location the entry would be the one that was there before
  cases h with
  | keep => exact absurd he hne
  | publish r hadmits =>
    by_cases hl : l = r.location
    · exact ⟨r, rfl, hl.symm, hadmits.owner_eq he hl⟩
    · rw [get?_set, if_neg hl] at hne
      exact absurd he hne
  | share r path hadmits =>
    by_cases hl : l = r.location
    · exact ⟨r, rfl, hl.symm, hadmits.owner_eq he hl⟩
    · rw [get?_set, Resource.location_stamped, if_neg hl] at hne
      exact absurd he hne
  | remove r hholds =>
    by_cases hl : l = r.location
    · exact ⟨r, rfl, hl.symm, hholds.owner_eq he hl⟩
    · rw [get?_erase, if_neg hl] at hne
      exact absurd he hne

end OwnershipMap

namespace Server

/-- The catalog works and lists the entries of a well-formed ownership map in order. -/
structure Represents (s : Server) (m : OwnershipMap) : Prop where
  healthy : s.catalog.poisoned = false
  wellFormed : m.WellFormed
  entries_eq : s.catalog.entries = m.toList

theorem Sound.represents {s : Server} (h : s.Sound) : s.Represents s.ownership where
  healthy := h.healthy
  wellFormed := Catalog.wellFormed_mapOf h.unambiguous
  entries_eq := (Catalog.toList_mapOf h.unambiguous).symm

/-- An entry of a sound server changes only by a request that claims its location in the name of its
owner. -/
theorem exists_claim_of_ne {s : Server} (h : s.Sound) (turn : Turn) {l : Location} {e : Resource}
    (he : s.ownership.get? l = some e) (hne : (s.reply turn).server.ownership.get? l ≠ some e) :
    ∃ call r, Call.read s.secret turn.text = .ok call ∧ call.claimed? = some r ∧
      r.location = l ∧ r.owner = e.owner := by
  obtain ⟨rejection, -, hreply⟩ | ⟨call, m, hread, happly, -, hcontinues⟩ := reply_cases h turn
  · rw [hreply] at hne
    exact absurd he hne
  · rw [hcontinues.ownership_eq] at hne
    obtain ⟨r, hclaimed, hl, howner⟩ :=
      (OwnershipMap.change_of_apply happly).claimed?_of_ne he hne
    exact ⟨call, r, hread, hclaimed, hl, howner⟩

/-- After every run from an empty catalog, the catalog lists an ownership map. The next request
succeeds exactly when it does so on the map, and then leads to the map that it comes to; any other
request is answered with its reason and leaves the map as it was. No entry changes unless the
request claims its location in the name of its owner. -/
theorem ownership_run (secret : String) (directory : Directory) (turns : List Turn) (turn : Turn) :
    let s := (Server.mk secret {} directory).after turns
    let s' := (s.reply turn).server
    s.Represents s.ownership ∧ s'.Represents s'.ownership ∧
    (match (Call.read s.secret turn.text).bind (s.ownership.apply s.origin turn.files) with
      | .ok m => (s.reply turn).Succeeds ∧ s'.ownership = m
      | .error rejection =>
        ¬ (s.reply turn).Succeeds ∧ (s.reply turn).answer = .ok [.rejected rejection] ∧
          s'.ownership = s.ownership) ∧
    ∀ l e, s.ownership.get? l = some e → s'.ownership.get? l ≠ some e →
      ∃ call r, Call.read s.secret turn.text = .ok call ∧ call.claimed? = some r ∧
        r.location = l ∧ r.owner = e.owner := by
  intro s s'
  -- soundness carries the run; all else is about the one turn that comes next
  have hsound : s.Sound := sound_after secret directory turns
  refine ⟨hsound.represents, (continues_reply hsound turn).sound.represents, ?_,
    fun l e he hne => exists_claim_of_ne hsound turn he hne⟩
  obtain ⟨rejection, hspec, hreply⟩ | ⟨call, m, hread, happly, hsucceeds, hcontinues⟩ :=
    reply_cases hsound turn
  · rw [specify] at hspec
    rw [hspec]
    have hanswer : (s.reply turn).answer = .ok [.rejected rejection] := by rw [hreply]
    have hserver : s' = s := congrArg Reply.server hreply
    exact ⟨Reply.not_succeeds_of_rejected hanswer, hanswer, by rw [hserver]⟩
  · rw [hread, Except.bind, happly]
    exact ⟨hsucceeds, hcontinues.ownership_eq⟩

end Server

end FederatedCatalog
