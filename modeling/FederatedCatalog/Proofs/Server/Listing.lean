import FederatedCatalog.Proofs.Server.Calls
import FederatedCatalog.Proofs.Server.Run

/-!
# What a catalog lists

Clients may write anything into a resource, but not everything gets into the catalog. A server that
starts with an empty catalog only ever lists resources with clean texts and a real owner, without a
size, under a URI that can be read. Its own origin is stamped on the files on this host, and on
nothing else.

## Main definitions

* `Resource.Listable`: the resource may stand in a catalog.

## Main results

* `OwnershipMap.Change.listable`: a valid call puts only listable resources on the map;
* `Server.listing_run`: after every run, the catalog holds listable resources at distinct locations.
-/

namespace FederatedCatalog

/-- The resource may stand in the catalog of a server with this origin. -/
structure Resource.Listable (origin : String) (r : Resource) : Prop where
  /-- The owner is not the mask. -/
  owner_ne : r.owner ≠ ownerMask
  /-- There is no size. -/
  size_eq : r.size = none
  /-- No text or tag holds U+0000 or has a blank at an end. -/
  clean : ∀ text ∈ r.texts, Text.IsClean text
  /-- The URI can be read. The origin of the server stands on files on this host and on no other
  resource. -/
  placed : ∃ u, Uri.parse? r.uri = some u ∧
    if u.scheme = Uri.fileScheme then
      r.origin = some origin ∧ (Uri.localPath? r.uri).isSome
    else r.origin = none

namespace Resource

variable {r : Resource}

/-- A supplied resource under a URI that names no file is listable. -/
theorem Supplied.listable {u : Uri} (h : r.Supplied) (origin : String)
    (hparse : Uri.parse? r.uri = some u) (hscheme : u.scheme ≠ Uri.fileScheme) :
    r.Listable origin where
  owner_ne := by simpa [hasMaskedOwner] using h.unmasked
  size_eq := h.size_eq
  clean := h.clean
  placed := ⟨u, hparse, by rw [if_neg hscheme]; exact h.origin_eq⟩

/-- A supplied resource for a file on this host is listable once the origin is stamped on it. -/
theorem Supplied.listable_stamped {path : Path} (h : r.Supplied) (origin : String)
    (hlocal : Uri.localPath? r.uri = some path) :
    { r with origin := some origin : Resource }.Listable origin where
  owner_ne := by simpa [hasMaskedOwner] using h.unmasked
  size_eq := h.size_eq
  clean := h.clean
  placed := by
    -- only file URIs have a path on this host, so the stamp is called for
    obtain ⟨u, hparse, hscheme⟩ := Uri.scheme_of_localPath? hlocal
    refine ⟨u, hparse, ?_⟩
    rw [if_pos hscheme]
    exact ⟨rfl, by rw [hlocal]; rfl⟩

end Resource

namespace OwnershipMap

variable {m m' : OwnershipMap} {origin : String} {call : Call}

/-- Every entry is listable. -/
def Listable (m : OwnershipMap) (origin : String) : Prop := ∀ l, ∀ e ∈ m.get? l, e.Listable origin

theorem Listable.set (h : m.Listable origin) {r : Resource} (hr : r.Listable origin) :
    (m.set r).Listable origin := by
  intro l e he
  rw [get?_set, Option.mem_def] at he
  split at he
  · obtain rfl := Option.some.inj he
    exact hr
  · exact h l e he

theorem Listable.erase (h : m.Listable origin) (k : Location) : (m.erase k).Listable origin := by
  intro l e he
  rw [get?_erase, Option.mem_def] at he
  split at he
  · cases he
  · exact h l e he

/-- A valid call puts only listable resources on the map. -/
theorem Change.listable (h : m.Change origin call m') (hvalid : call.Valid)
    (hm : m.Listable origin) : m'.Listable origin := by
  cases h with
  | keep => exact hm
  | publish r =>
    obtain ⟨hsupplied, u, hparse, hscheme⟩ := hvalid
    exact hm.set (hsupplied.listable origin hparse hscheme)
  | share r path =>
    -- the check was made before the stamp was put on
    obtain ⟨hsupplied, hlocal⟩ := hvalid
    exact hm.set (hsupplied.listable_stamped origin hlocal)
  | remove r => exact hm.erase r.location

end OwnershipMap

namespace Server

/-- The server is sound and every entry of its catalog is listable. -/
structure Tidy (s : Server) : Prop where
  sound : s.Sound
  listable : s.ownership.Listable s.origin

/-- A server that goes on with a map of listable entries is tidy. -/
theorem Continues.tidy {s s' : Server} {m : OwnershipMap} (h : s.Continues m s')
    (hm : m.Listable s.origin) : s'.Tidy where
  sound := h.sound
  listable := by
    -- the name of the server stays, and with it the stamp that the old entries carry
    rw [h.ownership_eq, origin, h.self_eq]
    exact hm

/-- Every turn leaves a tidy server tidy. -/
theorem Tidy.reply {s : Server} (h : s.Tidy) (turn : Turn) : (s.reply turn).server.Tidy := by
  obtain ⟨rejection, -, hreply⟩ | ⟨call, m, hread, happly, -, hcontinues⟩ :=
    reply_cases h.sound turn
  · rw [hreply]
    exact h
  · have hchange := OwnershipMap.change_of_apply happly
    exact hcontinues.tidy (hchange.listable (Call.valid_of_read hread) h.listable)

/-- A server is tidy after every run from an empty catalog. -/
theorem tidy_after (secret : String) (directory : Directory) (turns : List Turn) :
    ((Server.mk secret {} directory).after turns).Tidy := by
  apply after_induction (P := Tidy)
  · intro s turn h
    exact h.reply turn
  · exact ⟨sound_empty secret directory, fun l e he => by cases he⟩

/-- After every run from an empty catalog, the entries stand at distinct locations and each of them
has clean texts, a real owner, no size and a URI that can be read. The files on this host carry the
origin of the server, the other entries none. -/
theorem listing_run (secret : String) (directory : Directory) (turns : List Turn) :
    let s := (Server.mk secret {} directory).after turns
    (s.catalog.entries.map fun r => (r.channel, r.uri)).Nodup ∧
      ∀ r ∈ s.catalog.entries, r.Listable s.origin := by
  intro s
  have htidy : s.Tidy := tidy_after secret directory turns
  constructor
  · -- pairs of channel and URI are locations
    have hpairs : s.catalog.entries.map (fun r => (r.channel, r.uri)) =
        (s.catalog.entries.map Resource.location).map fun l => (l.channel, l.uri) := by
      rw [List.map_map]
      rfl
    rw [hpairs]
    refine List.Nodup.map ?_ htidy.sound.unambiguous
    intro a b hab
    cases a
    cases b
    simpa using hab
  · intro r hr
    have hget : s.ownership.get? r.location = some r :=
      (Catalog.get?_eq_some_iff htidy.sound.unambiguous).mpr ⟨hr, rfl⟩
    exact htidy.listable r.location r hget

end Server

end FederatedCatalog
