import FederatedCatalog.Server.Call

/-!
# What the reader of calls guarantees

A call that was read carries a resource whose texts are clean, that has no origin and no size, whose
owner is no mask, and whose URI is of the kind that the command asks for.

## Main definitions

* `Resource.Supplied`: the resource is one that a client may supply;
* `Call.Valid`: the checks that a call passed.

## Main results

* `Call.valid_of_read`: a call that was read passed its checks.
-/

namespace FederatedCatalog

namespace Resource

/-- The texts that a client supplies with a resource. -/
def texts (r : Resource) : List String :=
  r.name :: r.description :: r.uri :: r.channel :: r.owner :: r.tags

/-- A resource as a client may supply it, once it is read: its texts are clean, origin and size are
left to the servers, and it does not claim the mask as its owner. -/
structure Supplied (r : Resource) : Prop where
  clean : ∀ text ∈ r.texts, Text.IsClean text
  origin_eq : r.origin = none
  size_eq : r.size = none
  unmasked : r.hasMaskedOwner = false

/-- Every text of a cleaned resource is clean. -/
theorem isClean_texts_normalized (r : Resource) :
    ∀ text ∈ r.normalized.texts, Text.IsClean text := by
  intro text htext
  simp only [texts, normalized, List.mem_cons, List.mem_map] at htext
  obtain rfl | rfl | rfl | rfl | rfl | ⟨tag, -, rfl⟩ := htext <;> exact Text.isClean_clean _

/-- Cleaning changes nothing in a resource whose texts are clean. -/
theorem normalized_eq_self {r : Resource} (h : ∀ text ∈ r.texts, Text.IsClean text) :
    r.normalized = r := by
  simp only [texts, List.forall_mem_cons] at h
  obtain ⟨hname, hdescription, huri, hchannel, howner, htags⟩ := h
  have htags' : r.tags.map Text.clean = r.tags :=
    calc r.tags.map Text.clean
        = r.tags.map id := List.map_congr_left fun tag htag => Text.clean_eq_self (htags tag htag)
      _ = r.tags := List.map_id r.tags
  rw [normalized, Text.clean_eq_self hname, Text.clean_eq_self hdescription,
    Text.clean_eq_self huri, Text.clean_eq_self hchannel, Text.clean_eq_self howner, htags']

end Resource

/-- A URI that names a file on this host is a file URI. -/
theorem Uri.scheme_of_localPath? {text : String} {path : Path} (h : localPath? text = some path) :
    ∃ u, parse? text = some u ∧ u.scheme = fileScheme := by
  obtain ⟨u, hparse, hpath⟩ := Option.bind_eq_some_iff.mp h
  split at hpath
  · cases hpath
  next hlocal =>
    simp only [not_or, ne_eq, Decidable.not_not] at hlocal
    exact ⟨u, hparse, hlocal.1⟩

namespace Call

/-- The checks that a call passed. -/
def Valid : Call → Prop
  | publish r => r.Supplied ∧ ∃ u, Uri.parse? r.uri = some u ∧ u.scheme ≠ Uri.fileScheme
  | remove r => r.Supplied ∧ ∃ u, Uri.parse? r.uri = some u
  | share r path => r.Supplied ∧ Uri.localPath? r.uri = some path
  | query _ t => t.Supplied
  | fetch t path => t.Supplied ∧ Uri.localPath? t.uri = some path
  | exchange _ => True

variable {α β : Type} {request : Json} {secret text : String} {call : Call}

theorem exists_of_bind {x : Except Rejection α} {f : α → Except Rejection β} {b : β}
    (h : (x >>= f) = .ok b) : ∃ a, x = .ok a ∧ f a = .ok b := by
  cases x with
  | error rejection => cases h
  | ok a => exact ⟨a, rfl, h⟩

theorem eq_some_of_orReject {rejection : Rejection} {x : Option α} {a : α}
    (h : orReject rejection x = .ok a) : x = some a := by
  cases x with
  | none => cases h
  | some b => exact congrArg some (Except.ok.inj h)

/-- A resource that a client supplies, and that passes the check for the mask, may be supplied. -/
private theorem supplied_of_resource? {key : String} {missing refused : Rejection} {r : Resource}
    (hread : resource? request key missing = .ok r) (hmask : refuseMask r refused = .ok ()) :
    r.Supplied := by
  rw [resource?] at hread
  split at hread
  next r' hr =>
    obtain rfl := Except.ok.inj hread
    -- the reader cleans the texts and drops origin and size as its last step
    obtain ⟨v, -, hr⟩ := Option.bind_eq_some_iff.mp hr
    obtain ⟨-, -, hr⟩ := Option.bind_eq_some_iff.mp hr
    obtain ⟨raw, -, hr⟩ := Option.bind_eq_some_iff.mp hr
    obtain rfl := Option.some.inj hr
    refine ⟨Resource.isClean_texts_normalized _, rfl, rfl, ?_⟩
    rw [refuseMask] at hmask
    split at hmask
    · cases hmask
    next hunmasked => exact Bool.eq_false_iff.mpr hunmasked
  next => cases hread

theorem valid_of_readPublish (h : readPublish request = .ok call) : call.Valid := by
  obtain ⟨r, hr, h⟩ := exists_of_bind h
  obtain ⟨⟨⟩, hmask, h⟩ := exists_of_bind h
  obtain ⟨u, hu, h⟩ := exists_of_bind h
  split at h
  · cases h
  next hscheme =>
    obtain rfl := Except.ok.inj h
    exact ⟨supplied_of_resource? hr hmask, u, eq_some_of_orReject hu, hscheme⟩

theorem valid_of_readRemove (h : readRemove request = .ok call) : call.Valid := by
  obtain ⟨r, hr, h⟩ := exists_of_bind h
  obtain ⟨⟨⟩, hmask, h⟩ := exists_of_bind h
  obtain ⟨u, hu, h⟩ := exists_of_bind h
  obtain rfl := Except.ok.inj h
  exact ⟨supplied_of_resource? hr hmask, u, eq_some_of_orReject hu⟩

theorem valid_of_readShare (h : readShare secret request = .ok call) : call.Valid := by
  -- the secret is compared before the resource is read
  obtain ⟨-, -, h⟩ := exists_of_bind h
  obtain ⟨given, -, h⟩ := exists_of_bind h
  split at h
  · cases h
  · obtain ⟨r, hr, h⟩ := exists_of_bind h
    obtain ⟨⟨⟩, hmask, h⟩ := exists_of_bind h
    obtain ⟨path, hpath, h⟩ := exists_of_bind h
    obtain rfl := Except.ok.inj h
    exact ⟨supplied_of_resource? hr hmask, eq_some_of_orReject hpath⟩

theorem valid_of_readQuery (h : readQuery request = .ok call) : call.Valid := by
  obtain ⟨relay, -, h⟩ := exists_of_bind h
  obtain ⟨t, ht, h⟩ := exists_of_bind h
  obtain ⟨⟨⟩, hmask, h⟩ := exists_of_bind h
  obtain rfl := Except.ok.inj h
  exact supplied_of_resource? ht hmask

theorem valid_of_readFetch (h : readFetch request = .ok call) : call.Valid := by
  obtain ⟨t, ht, h⟩ := exists_of_bind h
  obtain ⟨path, hpath, h⟩ := exists_of_bind h
  obtain ⟨⟨⟩, hmask, h⟩ := exists_of_bind h
  obtain rfl := Except.ok.inj h
  exact ⟨supplied_of_resource? ht hmask, eq_some_of_orReject hpath⟩

/-- A call that was read passed its checks. -/
theorem valid_of_read (h : read secret text = .ok call) : call.Valid := by
  obtain ⟨request, -, h⟩ := exists_of_bind h
  obtain ⟨name, -, h⟩ := exists_of_bind h
  obtain ⟨command, -, h⟩ := exists_of_bind h
  cases command with
  | publish => exact valid_of_readPublish h
  | remove => exact valid_of_readRemove h
  | share => exact valid_of_readShare h
  | query => exact valid_of_readQuery h
  | fetch => exact valid_of_readFetch h
  | exchange =>
    obtain ⟨entries, -, h⟩ := exists_of_bind h
    obtain rfl := Except.ok.inj h
    trivial

end Call

end FederatedCatalog
