import FederatedCatalog.Proofs.Catalog.Ownership
import FederatedCatalog.Resource.Matching

/-!
# The channels of a catalog

One list holds the entries of all channels. What is looked for in one channel is found among its own
entries, and storing or removing a resource changes the entries of its own channel as if there were
no others, and those of the others not at all.

## Main definitions

* `Catalog.within`: the entries of a channel, in their order;
* `Catalog.OnlyWithin`: a property that only resources of one channel have.

## Main results

* `Catalog.any_within`, `Catalog.filter_within` and `Catalog.get?_within`: looking for entries;
* `Catalog.within_place` and `Catalog.within_place_of_ne`: storing;
* `Catalog.within_eraseP` and `Catalog.within_eraseP_of_ne`: removing.
-/

namespace FederatedCatalog.Catalog

/-- The entries of a channel, in their order. -/
def within (channel : String) (es : List Resource) : List Resource :=
  es.filter (·.channel == channel)

/-- Only resources of the channel have the property. -/
def OnlyWithin (channel : String) (p : Resource → Bool) : Prop :=
  ∀ e, p e = true → e.channel = channel

variable {channel : String} {p : Resource → Bool} {r : Resource} {es : List Resource}

/-! ### Properties of one channel -/

theorem onlyWithin_sameLocation (r : Resource) : OnlyWithin r.channel (·.sameLocation r) := by
  intro e he
  exact congrArg Location.channel (Resource.sameLocation_iff.mp he)

theorem onlyWithin_sameIdentity (r : Resource) : OnlyWithin r.channel (·.sameIdentity r) := by
  intro e he
  exact congrArg Location.channel (Resource.sameIdentity_iff.mp he).1

theorem onlyWithin_conflict (r : Resource) :
    OnlyWithin r.channel fun e => e.sameLocation r && e.owner != r.owner := by
  intro e he
  exact onlyWithin_sameLocation r e (Bool.and_eq_true_iff.mp he).1

theorem onlyWithin_matchedBy (t : Resource) : OnlyWithin t.channel (·.matchedBy t) := by
  intro e he
  simp only [Resource.matchedBy, Bool.and_eq_true, beq_iff_eq] at he
  exact he.1.1.1.1.symm

/-- For an entry with the property, its channel need not be looked at. -/
private theorem and_channel_eq (h : OnlyWithin channel p) (e : Resource) :
    (e.channel == channel && p e) = p e := by
  cases hp : p e with
  | false => rw [Bool.and_false]
  | true => simp [h e hp]

/-! ### Looking for entries -/

theorem any_within (h : OnlyWithin channel p) : (within channel es).any p = es.any p := by
  rw [within, List.any_filter]
  simp only [and_channel_eq h]

theorem filter_within (h : OnlyWithin channel p) : (within channel es).filter p = es.filter p := by
  rw [within, List.filter_filter]
  refine List.filter_congr fun e _ => ?_
  rw [Bool.and_comm, and_channel_eq h]

/-- The entry at a location is found in its channel. -/
theorem get?_within {l : Location} (hl : l.channel = channel) :
    (mapOf (within channel es)).get? l = (mapOf es).get? l := by
  show (within channel es).find? _ = es.find? _
  rw [within, List.find?_filter]
  refine congrArg (fun q => es.find? q) (funext fun e => ?_)
  by_cases he : e.location = l
  · subst he
    simpa [Resource.location] using hl
  · simp [he]

/-! ### Storing and removing -/

/-- A resource is stored among the entries of its channel. -/
theorem within_place (hr : r.channel = channel) :
    within channel (place r es) = place r (within channel es) := by
  induction es with
  | nil => simp [place, within, hr]
  | cons e es ih =>
    simp only [within] at ih ⊢
    by_cases hsame : e.sameIdentity r = true
    · -- the version that is replaced stands in the channel too
      have he : e.channel = channel := (onlyWithin_sameIdentity r e hsame).trans hr
      simp [place, hsame, he, hr]
    · by_cases he : e.channel = channel <;> simp [place, hsame, he, ih]

/-- Other channels do not see that a resource is stored. -/
theorem within_place_of_ne (hr : r.channel ≠ channel) :
    within channel (place r es) = within channel es := by
  induction es with
  | nil => simp [place, within, hr]
  | cons e es ih =>
    simp only [within] at ih ⊢
    by_cases hsame : e.sameIdentity r = true
    · have he : e.channel ≠ channel := (onlyWithin_sameIdentity r e hsame).trans_ne hr
      simp [place, hsame, he, hr]
    · by_cases he : e.channel = channel <;> simp [place, hsame, he, ih]

/-- The first entry with a property is removed from among the entries of its channel. -/
theorem within_eraseP (h : OnlyWithin channel p) :
    within channel (es.eraseP p) = (within channel es).eraseP p := by
  rw [within, within, List.eraseP_filter]
  refine congrArg _ (congrArg (fun q => es.eraseP q) (funext fun e => ?_))
  rw [Bool.and_comm, and_channel_eq h]

/-- Other channels do not see that an entry is removed. -/
theorem within_eraseP_of_ne {other : String} (h : OnlyWithin other p) (hne : other ≠ channel) :
    within channel (es.eraseP p) = within channel es := by
  induction es with
  | nil => rfl
  | cons e es ih =>
    by_cases hp : p e = true
    · have he : e.channel ≠ channel := (h e hp).trans_ne hne
      simp [within, hp, he]
    · simp only [within] at ih ⊢
      rw [List.eraseP_cons_of_neg (by simpa using hp), List.filter_cons, ih, List.filter_cons]

end FederatedCatalog.Catalog
