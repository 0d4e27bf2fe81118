import FederatedCatalog.Proofs.Json.RoundTrip
import FederatedCatalog.Resource.Encoding

/-!
# Resources read back

A server writes a resource into a frame or a request, and another server reads it. A frame gives the
very resource back; a request gives it back cleaned and without origin and size.

## Main results

* `ofPeerFrame?_render`: the frame of a resource reads back as the resource, whatever its texts;
* `ofRequest?_toJson`: what a server makes of a resource in a request;
* `readings_render`: the two readings of the text of a resource.
-/

namespace FederatedCatalog.Resource

open Json

private theorem mapM_string? (texts : List String) :
    (texts.map Json.string).mapM Json.string? = some texts := by
  induction texts with
  | nil => rfl
  | cons s texts ih =>
    rw [List.map_cons, List.mapM_cons, ih]
    rfl

theorem natural?_ofNat (n : UInt64) : (Json.ofNat n.toNat).natural? = some n := by
  have hrange : (0 : Int) ≤ n.toNat ∧ (n.toNat : Int) < UInt64.size :=
    ⟨Int.natCast_nonneg _, Int.ofNat_lt.mpr n.toNat_lt⟩
  rw [Json.ofNat, Json.natural?, if_pos hrange, Int.toNat_natCast, UInt64.ofNat_toNat]

/-- The object of a resource is plain. -/
theorem plain_toJson (depth : Nat) (r : Resource) : Plain (depth + 2) r.toJson := by
  have hstring : ∀ d s, Plain d (.string s) := by
    intro d s
    cases d <;> trivial
  have htags : Plain (depth + 1) (.array (r.tags.map .string)) := by
    intro v hv
    obtain ⟨s, -, rfl⟩ := List.mem_map.mp hv
    exact hstring _ s
  intro m hm
  simp only [List.mem_append, List.mem_cons, List.not_mem_nil, or_false, Option.mem_toList,
    Option.map_eq_some_iff] at hm
  obtain ((rfl | rfl | rfl | rfl | rfl | rfl) | ⟨o, -, rfl⟩) | ⟨n, -, rfl⟩ := hm
  · exact hstring _ r.name
  · exact htags
  · exact hstring _ r.description
  · exact hstring _ r.uri
  · exact hstring _ r.channel
  · exact hstring _ r.owner
  · exact hstring _ o
  · exact plain_ofNat _ n.toNat_lt

/-! ### Members -/

/-- The members of a resource that are texts, as the reader finds them. -/
theorem textMember?_toJson (r : Resource) :
    textMember? r.toJson "name" = some r.name ∧
      textMember? r.toJson "description" = some r.description ∧
      textMember? r.toJson "uri" = some r.uri ∧
      textMember? r.toJson "channel" = some r.channel ∧
      textMember? r.toJson "owner" = some r.owner := by
  -- origin and size come last, so the members before them are found whether they are there or not
  cases horigin : r.origin <;> cases hsize : r.size <;>
    simp [textMember?, toJson, horigin, hsize, Json.get?, List.lookup_cons, Json.string?]

/-- The tags of a resource, as the reader finds them. -/
theorem tagsMember?_toJson (r : Resource) : tagsMember? r.toJson = some r.tags := by
  have htags : r.toJson.get? "tags" = some (.array (r.tags.map .string)) := by
    cases horigin : r.origin <;> cases hsize : r.size <;>
      simp [toJson, horigin, hsize, Json.get?, List.lookup_cons]
  rw [tagsMember?, htags]
  exact mapM_string? r.tags

/-- The origin of a resource, as the reader finds it. -/
theorem originMember?_toJson (r : Resource) :
    optionalMember? r.toJson "ezserver" Json.string? = some r.origin := by
  have horigin : r.toJson.get? "ezserver" = r.origin.map Json.string := by
    cases horigin : r.origin <;> cases hsize : r.size <;>
      simp [toJson, horigin, hsize, Json.get?, List.lookup_cons]
  rw [optionalMember?, horigin]
  cases r.origin <;> rfl

/-- The size of a resource, as the reader finds it. -/
theorem sizeMember?_toJson (r : Resource) :
    optionalMember? r.toJson "resourceSize" Json.natural? = some r.size := by
  have hsize : r.toJson.get? "resourceSize" = r.size.map fun n => Json.ofNat n.toNat := by
    cases horigin : r.origin <;> cases hsize : r.size <;>
      simp [toJson, horigin, hsize, Json.get?, List.lookup_cons]
  rw [optionalMember?, hsize]
  cases r.size with
  | none => rfl
  | some n => exact congrArg (Option.map some) (natural?_ofNat n)

/-! ### Round trips -/

/-- The object of a resource reads back as the resource. -/
theorem ofObject?_toJson (r : Resource) : ofObject? r.toJson = some r := by
  obtain ⟨hname, hdescription, huri, hchannel, howner⟩ := textMember?_toJson r
  simp only [ofObject?, hname, hdescription, huri, hchannel, howner, tagsMember?_toJson,
    originMember?_toJson, sizeMember?_toJson, Option.bind_eq_bind, Option.bind_some,
    Option.pure_def]

/-- The text of a resource parses to its object. -/
theorem parse?_render_eq (r : Resource) : parse? r.render = some r.toJson :=
  parse?_render (plain_toJson 125 r)

/-- The frame of a resource reads back as the resource. -/
theorem ofPeerFrame?_render (r : Resource) : ofPeerFrame? r.render = some r := by
  have huri : (r.toJson.get? "uri").bind Json.string? = some r.uri := by
    cases horigin : r.origin <;> cases hsize : r.size <;>
      simp [toJson, horigin, hsize, Json.get?, List.lookup_cons, Json.string?]
  obtain ⟨v, hv, hstring⟩ := Option.bind_eq_some_iff.mp huri
  simp only [ofPeerFrame?, parse?_render_eq, hv, hstring, ofObject?_toJson, Option.bind_eq_bind,
    Option.bind_some]

/-- The object of a resource in a request reads back cleaned, without origin and size. -/
theorem ofRequest?_toJson (r : Resource) :
    ofRequest? r.toJson = some { r with origin := none, size := none }.normalized := by
  show (ofObject? r.toJson).bind
    (fun r => some { r with origin := none, size := none }.normalized) = _
  rw [ofObject?_toJson, Option.bind_some]

/-- Whatever texts, tags, origin and size a resource has, its text is read in both ways. As the
frame of a peer it is the very resource; as what a client supplies it is the resource cleaned,
without origin and size. -/
theorem readings_render (r : Resource) :
    ofPeerFrame? r.render = some r ∧
      (parse? r.render).bind ofRequest? =
        some { r.normalized with origin := none, size := none } := by
  refine ⟨ofPeerFrame?_render r, ?_⟩
  -- origin and size are dropped before the texts are cleaned, which makes no difference
  rw [parse?_render_eq, Option.bind_some, ofRequest?_toJson]
  rfl

end FederatedCatalog.Resource
