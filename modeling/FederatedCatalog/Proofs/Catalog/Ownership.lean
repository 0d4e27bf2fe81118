import FederatedCatalog.Catalog
import Mathlib.Data.List.Nodup
import Mathlib.Logic.Function.Basic

/-!
# Ownership maps

A catalog is a list that is searched by location or by identity. Here is what it stands for: a map
from locations to resources that remembers the order in which its locations came in, and in which
the owner of an entry has its location for themselves. Under the invariant that no location is
listed twice, the operations of the list are those of the map.

## Main definitions

* `OwnershipMap`, `OwnershipMap.set` and `OwnershipMap.erase`: the map and its updates;
* `OwnershipMap.Admits` and `OwnershipMap.Holds`: who may write at a location, and who holds it;
* `Catalog.ownershipMap`: the map that a catalog stands for;
* `Catalog.Unambiguous`: no location is listed twice.

## Main results

* `Catalog.mapOf_place` and `Catalog.mapOf_eraseP`: storing is setting and removing is erasing;
* `Catalog.wellFormed_mapOf` and `Catalog.toList_mapOf`: the map has one entry for each location,
  and the list can be read off it.
-/

namespace FederatedCatalog

/-- Where a resource is listed. -/
structure Location where
  /-- The channel. -/
  channel : String
  /-- The URI. -/
  uri : String
  deriving Repr, DecidableEq

/-- The location of a resource. -/
def Resource.location (r : Resource) : Location := ⟨r.channel, r.uri⟩

theorem Resource.location_stamped (r : Resource) (origin : Option String) :
    { r with origin := origin : Resource }.location = r.location := rfl

/-- Two resources claim the same channel and URI exactly when their locations are equal. -/
theorem Resource.sameLocation_iff {a b : Resource} :
    a.sameLocation b = true ↔ a.location = b.location := by
  simp [sameLocation, location]

/-- Two resources are versions of one entry exactly when their locations and owners are equal. -/
theorem Resource.sameIdentity_iff {a b : Resource} :
    a.sameIdentity b = true ↔ a.location = b.location ∧ a.owner = b.owner := by
  simp [sameIdentity, sameLocation_iff]

/-- A map from locations to resources, with its locations in the order in which they came in. -/
structure OwnershipMap where
  /-- The locations that have an entry. -/
  order : List Location
  /-- The entry at each location. -/
  get? : Location → Option Resource

namespace OwnershipMap

/-- The owner of `r` may write at its location: no other owner has an entry there. -/
def Admits (m : OwnershipMap) (r : Resource) : Prop :=
  ∀ e ∈ m.get? r.location, e.owner = r.owner

/-- Whether a resource is admitted is decidable. -/
instance (m : OwnershipMap) (r : Resource) : Decidable (m.Admits r) := by
  unfold Admits
  infer_instance

/-- The owner of `r` has an entry at its location. -/
def Holds (m : OwnershipMap) (r : Resource) : Prop :=
  ∃ e ∈ m.get? r.location, e.owner = r.owner

/-- Whether the owner of a resource holds its location is decidable. -/
instance (m : OwnershipMap) (r : Resource) : Decidable (m.Holds r) := by
  unfold Holds
  infer_instance

/-- Make `r` the entry at its location. A location that is new comes last, any other keeps its
place. -/
def set (m : OwnershipMap) (r : Resource) : OwnershipMap :=
  { order := if r.location ∈ m.order then m.order else m.order ++ [r.location]
    get? := Function.update m.get? r.location (some r) }

/-- Delete the entry at a location. The other locations keep their order. -/
def erase (m : OwnershipMap) (l : Location) : OwnershipMap :=
  { order := m.order.erase l
    get? := Function.update m.get? l none }

/-- Setting the entry of a resource concerns its own location only. -/
theorem get?_set (m : OwnershipMap) (r : Resource) (l : Location) :
    (m.set r).get? l = if l = r.location then some r else m.get? l :=
  Function.update_apply m.get? r.location (some r) l

/-- Erasing an entry concerns its location only. -/
theorem get?_erase (m : OwnershipMap) (k l : Location) :
    (m.erase k).get? l = if l = k then none else m.get? l :=
  Function.update_apply m.get? k none l

/-- The entries in the order of their locations. -/
def toList (m : OwnershipMap) : List Resource := m.order.filterMap m.get?

/-- The order lists each location that has an entry once and no other, and every entry stands at its
own location. -/
structure WellFormed (m : OwnershipMap) : Prop where
  nodup : m.order.Nodup
  mem_order_iff : ∀ l, l ∈ m.order ↔ (m.get? l).isSome
  location_eq : ∀ l, ∀ e ∈ m.get? l, e.location = l

end OwnershipMap

namespace Catalog

/-- No location is listed twice. -/
def Unambiguous (es : List Resource) : Prop := (es.map Resource.location).Nodup

/-- The ownership map that a list of entries stands for. -/
def mapOf (es : List Resource) : OwnershipMap :=
  { order := es.map Resource.location
    get? := fun l => es.find? fun e => e.location = l }

/-- The ownership map that a catalog stands for. -/
def ownershipMap (c : Catalog) : OwnershipMap := mapOf c.entries

variable {es : List Resource} {r e : Resource} {l : Location}

/-- The entry at a location is the one that is listed there. -/
theorem get?_eq_some_iff (h : Unambiguous es) :
    (mapOf es).get? l = some e ↔ e ∈ es ∧ e.location = l := by
  constructor
  · intro hfind
    exact ⟨List.mem_of_find?_eq_some hfind, by simpa using List.find?_some hfind⟩
  · rintro ⟨hmem, hl⟩
    -- something is found, and whatever stands at the same location is the same entry
    cases hfind : (mapOf es).get? l with
    | none => exact absurd hl (by simpa using List.find?_eq_none.mp hfind e hmem)
    | some d =>
      have hd : d.location = l := by simpa using List.find?_some hfind
      rw [List.inj_on_of_nodup_map h (List.mem_of_find?_eq_some hfind) hmem (hd.trans hl.symm)]

theorem get?_eq_none_iff : (mapOf es).get? l = none ↔ l ∉ es.map Resource.location := by
  simp [mapOf]

/-- The list can be read off its map. -/
theorem toList_mapOf (h : Unambiguous es) : (mapOf es).toList = es := by
  have hget : ∀ e ∈ es, (mapOf es).get? e.location = some e := by
    intro e he
    exact (get?_eq_some_iff h).mpr ⟨he, rfl⟩
  rw [OwnershipMap.toList, mapOf, List.filterMap_map]
  calc es.filterMap ((mapOf es).get? ∘ Resource.location)
      = es.filterMap some := List.filterMap_congr fun e he => hget e he
    _ = es := List.filterMap_some

/-- The map has one entry for each location that is listed. -/
theorem wellFormed_mapOf (h : Unambiguous es) : (mapOf es).WellFormed := by
  refine ⟨h, fun l => ?_, fun l e he => ((get?_eq_some_iff h).mp he).2⟩
  rw [Option.isSome_iff_ne_none, ne_eq, get?_eq_none_iff, not_not]
  rfl

/-- Another owner holds the location of a resource exactly when the map does not admit it. -/
theorem any_conflict_iff (h : Unambiguous es) :
    es.any (fun e => e.sameLocation r && e.owner != r.owner) = true ↔ ¬ (mapOf es).Admits r := by
  simp only [List.any_eq_true, Bool.and_eq_true, bne_iff_ne, Resource.sameLocation_iff,
    OwnershipMap.Admits, Option.mem_def, get?_eq_some_iff h]
  grind

/-- An entry with the identity of a resource is listed exactly when its owner holds its location. -/
theorem any_sameIdentity_iff (h : Unambiguous es) :
    es.any (·.sameIdentity r) = true ↔ (mapOf es).Holds r := by
  simp only [List.any_eq_true, Resource.sameIdentity_iff, OwnershipMap.Holds,
    Option.mem_def, get?_eq_some_iff h, and_assoc]

/-! ### The operations of a catalog that works -/

section Working

variable {c : Catalog} (h : c.poisoned = false)
include h

theorem read_eq_ok : c.read = .ok c.entries := by
  rw [read, h]
  rfl

theorem write_eq_ok : c.write = .ok c.entries := by
  rw [write, h]
  rfl

theorem hasConflict_eq_ok (r : Resource) :
    c.hasConflict r = .ok (c.entries.any fun e => e.sameLocation r && e.owner != r.owner) := by
  rw [hasConflict, any, read_eq_ok h]
  rfl

theorem store_eq_ok (r : Resource) :
    c.store r =
      .ok (c.entries.any (·.sameIdentity r), { c with entries := place r c.entries }) := by
  rw [store, write_eq_ok h]
  rfl

theorem removeFirst_eq_ok (p : Resource → Bool) :
    c.removeFirst p = .ok (c.entries.find? p, { c with entries := c.entries.eraseP p }) := by
  rw [removeFirst, write_eq_ok h]
  rfl

theorem find?_eq_ok (p : Resource → Bool) : c.find? p = .ok (c.entries.find? p) := by
  rw [find?, read_eq_ok h]
  rfl

theorem query_eq_ok (template : Resource) (origin : String) :
    c.query template origin =
      .ok ((c.entries.filter (·.matchedBy template)).map (·.sanitized origin)) := by
  rw [query, read_eq_ok h]
  rfl

end Working

/-! ### Storing and removing -/

private theorem sameIdentity_of_location_eq (hadmits : (mapOf es).Admits r)
    (hunique : Unambiguous es) (he : e ∈ es) (hl : e.location = r.location) :
    e.sameIdentity r = true :=
  Resource.sameIdentity_iff.mpr ⟨hl, hadmits e ((get?_eq_some_iff hunique).mpr ⟨he, hl⟩)⟩

/-- Storing replaces the entry at the location of the resource, or appends the resource. -/
theorem place_eq_of_versions (h : ∀ e ∈ es, e.location = r.location → e.sameIdentity r = true) :
    (place r es).map Resource.location =
        (if r.location ∈ es.map Resource.location then es.map Resource.location
          else es.map Resource.location ++ [r.location]) ∧
      ∀ l, (place r es).find? (fun e => e.location = l) =
        if l = r.location then some r else es.find? fun e => e.location = l := by
  -- `place` walks down the list until it meets a version, and so does the induction
  induction es with
  | nil =>
    refine ⟨by simp [place], fun l => ?_⟩
    by_cases hl : l = r.location
    · simp [place, hl]
    · simp [place, hl, Ne.symm hl]
  | cons e es ih =>
    obtain ⟨ihorder, ihget⟩ := ih fun d hd => h d (List.mem_cons_of_mem e hd)
    by_cases he : e.location = r.location
    · -- the version is replaced where it stands, so the locations stay as they are
      have hplace : place r (e :: es) = r :: es := by
        rw [place, if_pos (h e List.mem_cons_self he)]
      refine ⟨by simp [hplace, he], fun l => ?_⟩
      by_cases hl : l = r.location
      · simp [hplace, hl]
      · simp [hplace, he, hl, Ne.symm hl]
    · -- another location is passed over
      have hplace : place r (e :: es) = e :: place r es := by
        rw [place, if_neg fun hsame => he (Resource.sameIdentity_iff.mp hsame).1]
      refine ⟨?_, fun l => ?_⟩
      · rw [hplace, List.map_cons, ihorder, List.map_cons]
        have hmem : r.location ∈ e.location :: es.map Resource.location ↔
            r.location ∈ es.map Resource.location := by simp [Ne.symm he]
        simp only [hmem]
        split <;> rfl
      · by_cases hl : e.location = l
        · subst hl
          simp [hplace, he]
        · simp only [hplace, List.find?_cons, hl, decide_false, ihget]

/-- Storing a resource that is admitted sets the entry at its location. -/
theorem mapOf_place (hunique : Unambiguous es) (hadmits : (mapOf es).Admits r) :
    mapOf (place r es) = (mapOf es).set r := by
  obtain ⟨horder, hget⟩ :=
    place_eq_of_versions fun e he hl => sameIdentity_of_location_eq hadmits hunique he hl
  rw [mapOf, OwnershipMap.set, horder]
  congr 1
  ext1 l
  rw [hget, Function.update_apply]
  rfl

/-- Storing a resource that is admitted lists no location twice. -/
theorem unambiguous_place (hunique : Unambiguous es) (hadmits : (mapOf es).Admits r) :
    Unambiguous (place r es) := by
  have horder : (place r es).map Resource.location = ((mapOf es).set r).order :=
    congrArg OwnershipMap.order (mapOf_place hunique hadmits)
  -- a location is added only where it is new
  rw [Unambiguous, horder, OwnershipMap.set]
  split
  next => exact hunique
  next hnew =>
    rw [← List.concat_eq_append]
    exact List.Nodup.concat hnew hunique

/-- Removing the version of a resource that its owner holds leaves the entries at other
locations. -/
theorem eraseP_eq_filter (hunique : Unambiguous es)
    (h : ∀ e ∈ es, e.location = r.location → e.sameIdentity r = true) :
    es.eraseP (·.sameIdentity r) = es.filter fun e => e.location ≠ r.location := by
  induction es with
  | nil => rfl
  | cons e es ih =>
    have hnodup := List.nodup_cons.mp hunique
    by_cases he : e.location = r.location
    · -- behind the entry that is removed, no other stands at its location
      have hothers : ∀ d ∈ es, d.location ≠ r.location := by
        intro d hd hl
        exact hnodup.1 (he ▸ hl ▸ List.mem_map_of_mem hd)
      rw [List.eraseP_cons, h e List.mem_cons_self he, cond_true,
        List.filter_cons_of_neg (by simpa), List.filter_eq_self.mpr (by simpa using hothers)]
    · have hother : e.sameIdentity r = false := by
        rw [Bool.eq_false_iff]
        exact fun hsame => he (Resource.sameIdentity_iff.mp hsame).1
      rw [List.eraseP_cons, hother, cond_false, List.filter_cons_of_pos (by simpa),
        ih hnodup.2 fun d hd => h d (List.mem_cons_of_mem e hd)]

/-- Removing the version of a resource that its owner holds erases the entry at its location. -/
theorem mapOf_eraseP (hunique : Unambiguous es) (hhold : (mapOf es).Holds r) :
    mapOf (es.eraseP (·.sameIdentity r)) = (mapOf es).erase r.location := by
  -- who holds a location is admitted there, so the first version is all that stands at it
  have hadmits : (mapOf es).Admits r := by
    obtain ⟨e, he, howner⟩ := hhold
    intro d hd
    obtain rfl := Option.some.inj (he.symm.trans hd)
    exact howner
  rw [eraseP_eq_filter hunique fun e he hl => sameIdentity_of_location_eq hadmits hunique he hl,
    mapOf, OwnershipMap.erase]
  congr 1
  · rw [mapOf, List.Nodup.erase_eq_filter hunique, List.filter_map]
    exact congrArg _ (List.filter_congr fun e _ => by simp [bne, beq_eq_decide])
  · ext1 l
    rw [Function.update_apply, List.find?_filter]
    split
    next hl =>
      subst hl
      simp
    next hl =>
      rw [mapOf]
      refine congrArg (fun p => es.find? p) (funext fun e => ?_)
      by_cases he : e.location = l
      · simp [he, hl]
      · simp [he]

theorem unambiguous_eraseP (hunique : Unambiguous es) (p : Resource → Bool) :
    Unambiguous (es.eraseP p) :=
  List.Nodup.sublist (List.Sublist.map _ List.eraseP_sublist) hunique

end Catalog

end FederatedCatalog
