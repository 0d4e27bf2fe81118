import FederatedCatalog.Proofs.Resource.Matching
import Mathlib.Data.List.Basic
import Mathlib.Data.List.Forall2

/-!
# Templates that ask for less

A template that asks for less finds at least as much, and it finds it in the same order. To ask for
less is to drop the owner or the URI, to ask for fewer tags, and to ask for shorter words. The words
need care: a name and a description are alternatives, so dropping one of the two asks for more, and
only dropping both asks for nothing. Of tags, all that counts is which lower-case forms there are.

## Main definitions

* `Resource.Widens`: a template asks for no more than another one;
* `Resource.Retags`: two resources have the same tags in other spellings.

## Main results

* `Resource.Widens.matchedBy`: what meets a template meets every wider one;
* `Resource.Retags.matchedBy_eq`: the spelling of tags makes no difference;
* `Catalog.query_narrowing`: both of them for the queries of a catalog.
-/

namespace FederatedCatalog

/-- What occurs in a text that occurs in another one occurs in that. -/
theorem Text.contains_trans {s m n : String} (hm : contains s m = true) (hn : contains m n = true) :
    contains s n = true :=
  occursIn_iff.mpr ((occursIn_iff.mp hn).trans (occursIn_iff.mp hm))

namespace Resource

/-! ### Wider templates -/

/-- The template `u` asks for no more than `t` does. Both ask for the same channel; owner and URI
are asked for alike or not at all, and every tag is asked for by `t` as well. Of the words, `u` asks
for none, or `t` asks for some and `u` for a part of each of them. -/
structure Widens (u t : Resource) : Prop where
  channel_eq : u.channel = t.channel
  owner : u.owner = t.owner ∨ u.owner = ""
  uri : u.uri = t.uri ∨ u.uri = ""
  tags : ∀ tag ∈ u.tags, Text.lowercase tag ∈ t.tags.map Text.lowercase
  wording : u.name = "" ∧ u.description = "" ∨
    ¬ (t.name = "" ∧ t.description = "") ∧
      (t.name ≠ "" → u.name ≠ "" ∧ Text.contains t.name u.name = true) ∧
      (t.description ≠ "" →
        u.description ≠ "" ∧ Text.contains t.description u.description = true)

variable {r s t u : Resource}

/-- Words that meet a template meet a wider one. -/
theorem Widens.wordingMatches (h : u.Widens t) (hr : wordingMatches t r = true) :
    Resource.wordingMatches u r = true := by
  rw [wordingMatches_iff] at hr ⊢
  rcases h.wording with hnone | ⟨hsome, hname, hdescription⟩
  · exact .inl hnone
  · -- the same alternative is met, by a part of the word that is found
    rcases hr with hempty | ⟨hn, hfound⟩ | ⟨hd, hfound⟩
    · exact absurd hempty hsome
    · obtain ⟨hn', hpart⟩ := hname hn
      exact .inr (.inl ⟨hn', Text.contains_trans hfound hpart⟩)
    · obtain ⟨hd', hpart⟩ := hdescription hd
      exact .inr (.inr ⟨hd', Text.contains_trans hfound hpart⟩)

/-- What meets a template meets every wider one. -/
theorem Widens.matchedBy (h : u.Widens t) (hr : r.matchedBy t = true) : r.matchedBy u = true := by
  obtain ⟨hchannel, howner, htags, huri, hwording⟩ := matchedBy_iff.mp hr
  refine matchedBy_iff.mpr ⟨h.channel_eq.trans hchannel, ?_, ?_, ?_, h.wordingMatches hwording⟩
  · rcases h.owner with hsame | hempty
    · rwa [hsame]
    · exact .inl hempty
  · -- a tag that `u` asks for is one that `t` asks for in another spelling
    intro tag htag
    obtain ⟨asked, hasked, heq⟩ := List.mem_map.mp (h.tags tag htag)
    rw [← heq]
    exact htags asked hasked
  · rcases h.uri with hsame | hempty
    · rwa [hsame]
    · exact .inl hempty

/-! ### Spellings of tags -/

/-- The resources differ in nothing but their tags, and these have the same lower-case forms,
however they are spelled, ordered and repeated. -/
structure Retags (r s : Resource) : Prop where
  rest_eq : { r with tags := s.tags } = s
  tags_iff : ∀ tag, tag ∈ r.tags.map Text.lowercase ↔ tag ∈ s.tags.map Text.lowercase

/-- Matching does not depend on how tags are spelled, neither in the candidate nor in the
template. -/
theorem Retags.matchedBy_eq (hr : r.Retags s) (ht : t.Retags u) :
    r.matchedBy t = s.matchedBy u := by
  have htags : (∀ tag ∈ t.tags, Text.lowercase tag ∈ r.tags.map Text.lowercase) ↔
      ∀ tag ∈ u.tags, Text.lowercase tag ∈ s.tags.map Text.lowercase := by
    calc (∀ tag ∈ t.tags, Text.lowercase tag ∈ r.tags.map Text.lowercase)
        ↔ ∀ tag ∈ t.tags.map Text.lowercase, tag ∈ r.tags.map Text.lowercase :=
          List.forall_mem_map.symm
      _ ↔ ∀ tag ∈ u.tags.map Text.lowercase, tag ∈ s.tags.map Text.lowercase :=
          forall_congr' fun tag => imp_congr (ht.tags_iff tag) (hr.tags_iff tag)
      _ ↔ ∀ tag ∈ u.tags, Text.lowercase tag ∈ s.tags.map Text.lowercase :=
          List.forall_mem_map
  rw [Bool.eq_iff_iff, matchedBy_iff, matchedBy_iff, htags, ← hr.rest_eq, ← ht.rest_eq]
  -- all other clauses look at members in which the resources agree
  exact Iff.rfl

/-- The copies that are handed out have the same tags in other spellings as well. -/
theorem Retags.sanitized (h : r.Retags s) (origin : String) :
    (r.sanitized origin).Retags (s.sanitized origin) := by
  refine ⟨?_, h.tags_iff⟩
  rw [← h.rest_eq]
  rfl

end Resource

namespace Catalog

/-- What a wider template finds in a catalog holds what the narrower one finds, in the same order;
from a poisoned catalog both get the same failure. What is found does not depend on how tags are
spelled, ordered or repeated: a template whose tags have the same lower-case forms meets the same
resources, and from a catalog whose entries are retagged it finds the same ones, retagged. -/
theorem query_narrowing (c : Catalog) (origin : String) :
    (∀ t u : Resource, u.Widens t →
      (c.poisoned = false → ∃ few many, c.query t origin = .ok few ∧ c.query u origin = .ok many ∧
        few.Sublist many) ∧
      (c.poisoned = true → c.query u origin = c.query t origin)) ∧
    (∀ r s t u : Resource, r.Retags s → t.Retags u → r.matchedBy t = s.matchedBy u) ∧
    ∀ (d : Catalog) (t u : Resource), c.poisoned = false → d.poisoned = false →
      List.Forall₂ Resource.Retags c.entries d.entries → t.Retags u →
      ∃ found retagged, c.query t origin = .ok found ∧ d.query u origin = .ok retagged ∧
        List.Forall₂ Resource.Retags found retagged := by
  refine ⟨fun t u hwidens => ⟨fun hc => ?_, fun hc => ?_⟩, fun r s t u hr ht => ?_,
    fun d t u hc hd hentries ht => ?_⟩
  · refine ⟨_, _, query_eq_ok hc t origin, query_eq_ok hc u origin, List.Sublist.map _ ?_⟩
    exact List.monotone_filter_right _ fun r hr => hwidens.matchedBy hr
  · -- the catalog is not read, so the templates do not matter
    rw [query, query, read, if_pos hc]
    rfl
  · exact hr.matchedBy_eq ht
  · refine ⟨_, _, query_eq_ok hc t origin, query_eq_ok hd u origin, ?_⟩
    have hmatched : List.Forall₂ Resource.Retags (c.entries.filter (·.matchedBy t))
        (d.entries.filter (·.matchedBy u)) :=
      List.rel_filter (fun r s hr => by simp [hr.matchedBy_eq ht]) hentries
    exact List.rel_map (fun r s hr => hr.sanitized origin) hmatched

/-- A resource with a name. -/
def novel : Resource := { name := "abc", tags := ["A", "n"], uri := "x:1", channel := "c" }

/-- A resource with a description only. -/
def essay : Resource := { tags := ["a"], description := "on z", uri := "x:2", channel := "c" }

/-- A template by name, with a tag in lower case. -/
def named : Resource := { name := "bc", tags := ["a"], channel := "c" }

/-- A template that asks for a shorter name, or else for a description. -/
def described : Resource := { name := "c", tags := ["A", "a"], description := "z", channel := "c" }

/-- A criterion more, and a resource more: the description that is asked for widens the template. -/
theorem query_narrowing_described :
    let c : Catalog := { entries := [novel, essay] }
    described.Widens named ∧ c.query named "s:1" = .ok [novel.sanitized "s:1"] ∧
      c.query described "s:1" = .ok [novel.sanitized "s:1", essay.sanitized "s:1"] ∧
      [novel.sanitized "s:1"].Sublist [novel.sanitized "s:1", essay.sanitized "s:1"] := by
  intro c
  have hwidens : described.Widens named :=
    { channel_eq := rfl
      owner := .inl rfl
      uri := .inl rfl
      tags := by decide +kernel
      wording := .inr (by decide +kernel) }
  have hnamed : c.query named "s:1" = .ok [novel.sanitized "s:1"] := by decide +kernel
  have hdescribed :
      c.query described "s:1" = .ok [novel.sanitized "s:1", essay.sanitized "s:1"] := by
    decide +kernel
  obtain ⟨few, many, hfew, hmany, hsub⟩ :=
    ((query_narrowing c "s:1").1 named described hwidens).1 rfl
  obtain rfl := Except.ok.inj (hfew.symm.trans hnamed)
  obtain rfl := Except.ok.inj (hmany.symm.trans hdescribed)
  exact ⟨hwidens, hnamed, hdescribed, hsub⟩

end Catalog

end FederatedCatalog
