import FederatedCatalog.Proofs.Catalog.Ownership
import FederatedCatalog.Resource.Matching
import Mathlib.Data.List.Nodup

/-!
# Resources met by themselves

Whoever looks for a resource in its own words finds it: each tag is a tag of itself up to letter
case, and a text occurs in itself. With its URI in the template, nothing else is found, since no
location is listed twice.

## Main results

* `Resource.matchedBy_iff`, `Resource.tagsSubset_iff` and `Resource.wordingMatches_iff`: matching,
  clause by clause;
* `Resource.matchedBy_assigned`: a resource meets itself, whatever origin and size it was given;
* `Catalog.filter_matchedBy`: what meets a template with a URI.
-/

namespace FederatedCatalog

namespace Resource

variable {r t : Resource}

theorem tagsSubset_iff {wanted available : List String} :
    tagsSubset wanted available = true ↔
      ∀ tag ∈ wanted, Text.lowercase tag ∈ available.map Text.lowercase := by
  simp only [tagsSubset, List.all_eq_true, List.contains_iff_mem]

theorem wordingMatches_iff :
    wordingMatches t r = true ↔ (t.name = "" ∧ t.description = "") ∨
      (t.name ≠ "" ∧ Text.contains r.name t.name = true) ∨
      (t.description ≠ "" ∧ Text.contains r.description t.description = true) := by
  simp [wordingMatches, or_assoc]

/-- A candidate meets a template when it meets each of its clauses. -/
theorem matchedBy_iff :
    r.matchedBy t = true ↔ t.channel = r.channel ∧ (t.owner = "" ∨ t.owner = r.owner) ∧
      (∀ tag ∈ t.tags, Text.lowercase tag ∈ r.tags.map Text.lowercase) ∧
      (t.uri = "" ∨ t.uri = r.uri) ∧ wordingMatches t r = true := by
  simp only [matchedBy, Bool.and_eq_true, Bool.or_eq_true, beq_iff_eq, String.isEmpty_iff,
    tagsSubset_iff, and_assoc]

/-- A text occurs in itself. -/
theorem contains_self (s : String) : Text.contains s s = true :=
  Text.occursIn_iff.mpr (List.infix_refl _)

theorem wordingMatches_self (r : Resource) : wordingMatches r r = true := by
  rw [wordingMatches, contains_self, contains_self]
  -- without a name and a description nothing is asked for, and either of them would do
  cases r.name.isEmpty <;> cases r.description.isEmpty <;> rfl

/-- A resource meets itself as a template. Origin and size do not matter. -/
theorem matchedBy_assigned (r : Resource) (origin : Option String) (size : Option UInt64) :
    { r with origin, size : Resource }.matchedBy r = true := by
  have htags : tagsSubset r.tags r.tags = true :=
    tagsSubset_iff.mpr fun tag htag => List.mem_map_of_mem htag
  have hwording : wordingMatches r { r with origin, size } = true := r.wordingMatches_self
  simp [matchedBy, htags, hwording]

/-- What meets a template with a URI stands at its location. -/
theorem location_eq_of_matchedBy (h : r.matchedBy t = true) (huri : t.uri ≠ "") :
    r.location = t.location := by
  -- the channel is always asked for, and the URI unless it is empty
  obtain ⟨hchannel, -, -, hempty | hsame, -⟩ := matchedBy_iff.mp h
  · exact absurd hempty huri
  · rw [location, location, hchannel, hsame]

end Resource

namespace Catalog

variable {es : List Resource} {e t : Resource}

/-- If the entry at the location of a template meets it, no other does, provided that the template
has a URI. -/
theorem filter_matchedBy (hunique : Unambiguous es) (huri : t.uri ≠ "")
    (he : (mapOf es).get? t.location = some e) (hmatched : e.matchedBy t = true) :
    es.filter (·.matchedBy t) = [e] := by
  obtain ⟨hmem, hl⟩ := (get?_eq_some_iff hunique).mp he
  -- neither list has repetitions, so it is enough that they have the same members
  have hnodup : (es.filter (·.matchedBy t)).Nodup := (List.Nodup.of_map _ hunique).filter _
  have hfound : ∀ d, d ∈ es.filter (·.matchedBy t) ↔ d ∈ [e] := by
    intro d
    rw [List.mem_filter, List.mem_singleton]
    constructor
    · rintro ⟨hd, hmatches⟩
      have hsame := Resource.location_eq_of_matchedBy hmatches huri
      exact List.inj_on_of_nodup_map hunique hd hmem (hsame.trans hl.symm)
    · rintro rfl
      exact ⟨hmem, hmatched⟩
  exact List.perm_singleton.mp
    ((List.perm_ext_iff_of_nodup hnodup (List.nodup_singleton e)).mpr hfound)

end Catalog

end FederatedCatalog
