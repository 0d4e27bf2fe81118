import FederatedCatalog.Proofs.Json.Extent
import FederatedCatalog.Proofs.Resource.RoundTrip

/-!
# How long the text of a resource is

A resource is written with all its texts, even where the client left them out, and servers add an
origin and a size. So what a server writes of a resource can be longer than what it read, but not by
much: cleaning makes no text longer, and only the members that were left out have to be paid for.

## Main definitions

* `bareSize`: the bytes of a resource without origin and size.

## Main results

* `utf8ByteSize_render`: the bytes of a resource in a frame;
* `bareSize_le_of_ofRequest?`: a resource that was read from an object hardly outgrows it;
* `bareSize_sanitized_le`: masking the owner adds nothing.
-/

namespace FederatedCatalog.Resource

open Json
open String (utf8Len)

/-- The bytes of a list of tags. -/
def tagsSize (tags : List String) : Nat := 1 + listSize quotedSize tags

/-- The bytes of a resource in a frame without origin and size. Keys and punctuation take 59. -/
def bareSize (r : Resource) : Nat :=
  59 + quotedSize r.name + tagsSize r.tags + quotedSize r.description + quotedSize r.uri +
    quotedSize r.channel + quotedSize r.owner

/-! ### Writing -/

theorem utf8Len_chars_tags (tags : List String) :
    utf8Len (chars (.array (tags.map .string))) = tagsSize tags := by
  rw [utf8Len_chars_array, tagsSize, listSize, listSize, List.map_map]
  rfl

/-- The bytes of a resource in a frame: the origin and the size come on top of the rest. -/
theorem utf8ByteSize_render (r : Resource) :
    r.render.utf8ByteSize =
      bareSize r + r.origin.elim 0 (fun o => 12 + quotedSize o) +
        r.size.elim 0 (fun n => 16 + utf8Len (natChars n.toNat)) := by
  have hkeys : quotedSize "name" = 6 ∧ quotedSize "tags" = 6 ∧ quotedSize "description" = 13 ∧
      quotedSize "uri" = 5 ∧ quotedSize "channel" = 9 ∧ quotedSize "owner" = 7 ∧
      quotedSize "ezserver" = 10 ∧ quotedSize "resourceSize" = 14 := by
    decide +kernel
  obtain ⟨hname, htags, hdescription, huri, hchannel, howner, horigin, hsize⟩ := hkeys
  have hstring (s : String) : utf8Len (chars (.string s)) = quotedSize s := by
    rw [chars, quotedSize]
  have hnumber (n : Nat) : utf8Len (chars (.ofNat n)) = utf8Len (natChars n) := by
    rw [ofNat, chars, Number.chars]
    rfl
  rw [render, Json.render, String.utf8ByteSize_ofList, toJson, utf8Len_chars_object, bareSize,
    listSize]
  simp only [utf8Len_memberText, List.map_append, List.map_cons, List.map_nil, List.sum_append,
    List.sum_cons, List.sum_nil, hstring, utf8Len_chars_tags, hname, htags, hdescription, huri,
    hchannel, howner]
  cases r.origin <;> cases r.size <;>
    simp only [Option.map_none, Option.map_some, Option.toList_none, Option.toList_some,
      List.map_cons, List.map_nil, List.sum_cons, List.sum_nil, Option.elim_none, Option.elim_some,
      hstring, hnumber, horigin, hsize] <;>
    omega

/-! ### Reading -/

/-- Cleaning makes no text longer. -/
theorem quotedSize_clean_le (s : String) : quotedSize (Text.clean s) ≤ quotedSize s := by
  apply quotedSize_le_of_sublist
  rw [Text.clean, String.toList_ofList, Text.cleanChars, Text.trim]
  -- a filter and one cut at each end
  refine List.Sublist.trans ?_ (List.filter_sublist (p := (· != '\x00')))
  exact (Text.trimEnd_isPrefix _).sublist.trans (List.dropWhile_sublist Text.isBlank)

theorem tagsSize_clean_le (tags : List String) :
    tagsSize (tags.map Text.clean) ≤ tagsSize tags := by
  have hsum : ((tags.map Text.clean).map fun tag => quotedSize tag + 1).sum ≤
      (tags.map fun tag => quotedSize tag + 1).sum := by
    induction tags with
    | nil => exact Nat.le_refl 0
    | cons tag tags ih =>
      have htag := quotedSize_clean_le tag
      simp only [List.map_cons, List.sum_cons]
      omega
  rw [tagsSize, tagsSize, listSize, listSize]
  omega

/-- Cleaning makes no resource longer. -/
theorem bareSize_normalized_le (r : Resource) : bareSize r.normalized ≤ bareSize r := by
  have hname := quotedSize_clean_le r.name
  have htags := tagsSize_clean_le r.tags
  have hdescription := quotedSize_clean_le r.description
  have huri := quotedSize_clean_le r.uri
  have hchannel := quotedSize_clean_le r.channel
  have howner := quotedSize_clean_le r.owner
  simp only [bareSize, normalized]
  omega

/-- A text member was paid for when it was read, unless it was left out; then its key and two quotes
are still to be paid for. -/
theorem le_costOf_textMember? {v : Json} {key s : String} (h : textMember? v key = some s) :
    quotedSize s ≤ costOf key (v.get? key) + 2 ∧
      (s ≠ "" → quotedSize key + 2 + quotedSize s ≤ costOf key (v.get? key)) := by
  rw [textMember?] at h
  split at h
  next =>
    obtain rfl := Option.some.inj h
    exact ⟨Nat.le_add_left _ _, fun hne => absurd rfl hne⟩
  next member hmember =>
    cases member with
    | string t =>
      obtain rfl := Option.some.inj h
      simp only [hmember, costOf, memberExtent, extent]
      constructor
      · omega
      · intro _
        omega
    | null | bool | number | array | object => cases h

theorem eq_map_of_mapM_string? {vs : List Json} {texts : List String}
    (h : vs.mapM Json.string? = some texts) : vs = texts.map .string := by
  induction vs generalizing texts with
  | nil =>
    obtain rfl := Option.some.inj h
    rfl
  | cons v vs ih =>
    rw [List.mapM_cons] at h
    obtain ⟨text, htext, h⟩ := Option.bind_eq_some_iff.mp h
    obtain ⟨rest, hrest, h⟩ := Option.bind_eq_some_iff.mp h
    obtain rfl := Option.some.inj h
    rw [List.map_cons, ← ih hrest]
    cases v with
    | string s =>
      obtain rfl := Option.some.inj htext
      rfl
    | null | bool | number | array | object => cases htext

/-- The tags were paid for when they were read, unless they were left out. -/
theorem le_costOf_tagsMember? {v : Json} {tags : List String} (h : tagsMember? v = some tags) :
    tagsSize tags ≤ costOf "tags" (v.get? "tags") + 2 := by
  rw [tagsMember?] at h
  split at h
  next =>
    obtain rfl := Option.some.inj h
    exact Nat.le_add_left _ _
  next member hmember =>
    obtain ⟨vs, hvs, h⟩ := Option.bind_eq_some_iff.mp h
    obtain rfl := eq_map_of_mapM_string? h
    cases member with
    | array vs' =>
      obtain rfl := Option.some.inj hvs
      have hsize : listSize extent (tags.map Json.string) = listSize quotedSize tags := by
        rw [listSize, listSize, List.map_map]
        rfl
      simp only [hmember, costOf, memberExtent, extent_array, hsize, tagsSize]
      omega
    | null | bool | number | string | object => cases hvs

/-- A resource that was read from an object hardly outgrows it. Only the members other than the URI
can have been left out, and with all of them missing 61 bytes are added. -/
theorem bareSize_le_of_ofRequest? {v : Json} {r : Resource} (h : ofRequest? v = some r)
    (huri : r.uri ≠ "") : bareSize r ≤ extent v + 61 := by
  obtain ⟨-, -, h⟩ := Option.bind_eq_some_iff.mp h
  obtain ⟨raw, hraw, h⟩ := Option.bind_eq_some_iff.mp h
  obtain rfl := Option.some.inj h
  have hclean := bareSize_normalized_le { raw with origin := none, size := none }
  obtain ⟨name, hname, hraw⟩ := Option.bind_eq_some_iff.mp hraw
  obtain ⟨tags, htags, hraw⟩ := Option.bind_eq_some_iff.mp hraw
  obtain ⟨description, hdescription, hraw⟩ := Option.bind_eq_some_iff.mp hraw
  obtain ⟨uri, huri', hraw⟩ := Option.bind_eq_some_iff.mp hraw
  obtain ⟨channel, hchannel, hraw⟩ := Option.bind_eq_some_iff.mp hraw
  obtain ⟨owner, howner, hraw⟩ := Option.bind_eq_some_iff.mp hraw
  obtain ⟨origin, -, hraw⟩ := Option.bind_eq_some_iff.mp hraw
  obtain ⟨size, -, hraw⟩ := Option.bind_eq_some_iff.mp hraw
  obtain rfl := Option.some.inj hraw
  -- an empty URI would have been cleaned to an empty one
  have hpresent : uri ≠ "" := by
    rintro rfl
    have hempty : Text.clean "" = "" := by decide
    exact huri hempty
  have hkeys : ["name", "tags", "description", "uri", "channel", "owner"].Nodup := by decide
  have hsum := sum_costOf_le hkeys v
  have hname' := (le_costOf_textMember? hname).1
  have htags' := le_costOf_tagsMember? htags
  have hdescription' := (le_costOf_textMember? hdescription).1
  have huri'' := (le_costOf_textMember? huri').2 hpresent
  have hchannel' := (le_costOf_textMember? hchannel).1
  have howner' := (le_costOf_textMember? howner).1
  have hkey : quotedSize "uri" = 5 := by decide +kernel
  simp only [List.map_cons, List.map_nil, List.sum_cons, List.sum_nil] at hsum
  refine Nat.le_trans hclean ?_
  simp only [bareSize]
  omega

/-! ### What servers add -/

/-- The mask is an owner of three bytes, quotes included. -/
theorem quotedSize_ownerMask : quotedSize ownerMask = 3 := by decide +kernel

/-- The copy that is handed out is no longer than the entry, apart from its origin. -/
theorem bareSize_sanitized_le (r : Resource) (origin : String) :
    bareSize (r.sanitized origin) ≤ bareSize r := by
  have howner : quotedSize (r.sanitized origin).owner ≤ quotedSize r.owner := by
    rw [sanitized]
    split
    · exact Nat.le_refl _
    next hne =>
      rw [quotedSize_ownerMask]
      refine three_le_quotedSize fun hempty => hne ?_
      rw [hempty]
      rfl
  simp only [bareSize, sanitized] at howner ⊢
  omega

end FederatedCatalog.Resource
