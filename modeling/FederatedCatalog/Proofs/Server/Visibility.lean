import FederatedCatalog.Proofs.Resource.Matching
import FederatedCatalog.Proofs.Server.Dispatch
import FederatedCatalog.Proofs.Server.Listing
import FederatedCatalog.Proofs.Server.Ownership
import FederatedCatalog.Proofs.Server.Provenance

/-!
# What was listed is found

Whoever published or shared a resource with success finds it, and nothing but it, by asking for the
very same object, as long as nobody writes at its location. It does not matter what else comes in
meanwhile: an entry is touched by nothing but a request that names its location and succeeds.

## Main definitions

* `Incoming.Offers` and `Incoming.LooksFor`: a request lists, or asks for, what a JSON value says;
* `Event.Writes`: an event changes what is listed at a location.

## Main results

* `Server.get?_reply_of_not_writes` and `Server.get?_after_of_not_writes`: an entry stays while
  nobody writes at its location, over one turn and over a run;
* `Server.exists_get?_of_offers`: what an offer that succeeds leaves at its location;
* `Server.matching_of_get?`: what a query in the words of an entry finds;
* `Server.visibility_run`: all of this together.
-/

namespace FederatedCatalog

/-! ### Requests -/

namespace Incoming

/-- The request publishes or shares what a JSON value describes. -/
structure Offers (text : String) (o : Json) : Prop where
  command : command? text = some Command.publish.name ∨ command? text = some Command.share.name
  resource : member? "resource" text = some o

/-- The request is a query whose template is a JSON value and that is not to be relayed. -/
structure LooksFor (text : String) (o : Json) : Prop where
  command : command? text = some Command.query.name
  relay : relay? text = some false
  template : member? "resourceTemplate" text = some o

variable {text : String} {o : Json} {r : Resource}

/-- The subject of an offer is what its JSON value describes. -/
theorem Offers.subject?_eq (h : Offers text o) : subject? text = Resource.ofRequest? o := by
  obtain ⟨hcommand | hcommand, hresource⟩ := h
  · rw [Incoming.subject?_eq hcommand]
    show resource? .publish "resource" text = _
    rw [resource?, if_pos hcommand, hresource, Option.bind_some]
  · rw [Incoming.subject?_eq hcommand]
    show resource? .share "resource" text = _
    rw [resource?, if_pos hcommand, hresource, Option.bind_some]

/-- A request that lists a resource publishes or shares. -/
theorem Offers.command_eq {command : Command} (h : Offers text o)
    (hcommand : command? text = some command.name) : command = .publish ∨ command = .share := by
  exact h.command.imp (command_unique hcommand) (command_unique hcommand)

/-- A query is read with the template that its JSON value describes, unless that claims the mask as
its owner. -/
theorem LooksFor.read_eq (h : LooksFor text o) (secret : String)
    (hr : Resource.ofRequest? o = some r) (hunmasked : r.hasMaskedOwner = false) :
    Call.read secret text = .ok (.query false r) := by
  obtain ⟨hcommand, hrelay, htemplate⟩ := h
  refine Call.read_of_template secret hcommand hrelay ?_ hunmasked
  rw [htemplate, Option.bind_some, hr]

end Incoming

/-- The request publishes, shares or removes a resource at the location, and succeeds. -/
def Event.Writes (event : Event) (l : Location) : Prop :=
  (∃ command ∈ [Command.publish, .share, .remove],
    Incoming.command? event.turn.text = some command.name) ∧
  (Incoming.subject? event.turn.text).map Resource.location = some l ∧ event.reply.Succeeds

/-- A call that claims a resource has it as its subject, and writes. -/
theorem Call.subject?_of_claimed? {call : Call} {r : Resource} (h : call.claimed? = some r) :
    call.subject? = some r ∧ call.command ∈ [Command.publish, .share, .remove] := by
  cases call with
  | publish | remove | share => exact ⟨h, by simp [Call.command]⟩
  | query | fetch | exchange => cases h

namespace OwnershipMap

variable {m m' : OwnershipMap} {origin : String} {files : FileSystem} {r : Resource} {path : Path}

/-- What is published with success stands at its location. -/
theorem get?_of_apply_publish (h : m.apply origin files (.publish r) = .ok m') :
    m'.get? r.location = some r := by
  rw [apply] at h
  split at h
  · obtain rfl := Except.ok.inj h
    rw [get?_set, if_pos rfl]
  · cases h

/-- What is shared with success stands at its location, with the origin stamped on it. -/
theorem get?_of_apply_share (h : m.apply origin files (.share r path) = .ok m') :
    m'.get? r.location = some { r with origin := some origin } := by
  rw [apply] at h
  split at h
  · obtain rfl := Except.ok.inj h
    rw [get?_set, if_pos (r.location_stamped _).symm]
  · cases h

end OwnershipMap

namespace Server

variable {s : Server} {l : Location} {e r : Resource} {o : Json}

/-! ### Entries that stay -/

/-- An entry stays over a turn that does not write at its location. -/
theorem get?_reply_of_not_writes (h : s.Sound) (turn : Turn) (he : s.ownership.get? l = some e)
    (hkept : ¬ Event.Writes ⟨s, turn⟩ l) : (s.reply turn).server.ownership.get? l = some e := by
  obtain ⟨rejection, -, hreply⟩ | ⟨call, m, hread, happly, hsucceeds, hcontinues⟩ :=
    reply_cases h turn
  · rw [hreply]
    exact he
  · -- whoever changes the entry claims its location, and this request succeeds
    by_contra hne
    rw [hcontinues.ownership_eq] at hne
    obtain ⟨r, hclaimed, hl, -⟩ :=
      (OwnershipMap.change_of_apply happly).claimed?_of_ne he hne
    obtain ⟨hsubject, hcommand⟩ := Call.subject?_of_claimed? hclaimed
    apply hkept
    refine ⟨⟨call.command, hcommand, (Call.repeats_of_read hread).command⟩, ?_, hsucceeds⟩
    rw [Call.subject?_of_read hread, hsubject, Option.map_some, hl]

/-- An entry stays over a run in which nobody writes at its location. -/
theorem get?_after_of_not_writes (h : s.Sound) (turns : List Turn)
    (he : s.ownership.get? l = some e) (hkept : ∀ event ∈ s.trace turns, ¬ event.Writes l) :
    (s.after turns).ownership.get? l = some e := by
  induction turns generalizing s with
  | nil => exact he
  | cons turn turns ih =>
    obtain ⟨hfirst, hlater⟩ := List.forall_mem_cons.mp hkept
    exact ih (continues_reply h turn).sound (get?_reply_of_not_writes h turn he hfirst) hlater

/-! ### Writing and reading -/

theorem uri_ne_empty_of_parse? {u : Uri} (h : Uri.parse? r.uri = some u) : r.uri ≠ "" := by
  intro hempty
  have hnone : Uri.parse? "" = none := by decide +kernel
  rw [hempty, hnone] at h
  cases h

/-- An offer that succeeds leaves at its location what it describes, under a URI, and with the
origin that it was given. -/
theorem exists_get?_of_offers (h : s.Sound) {turn : Turn} (hoffers : Incoming.Offers turn.text o)
    (hsucceeds : (s.reply turn).Succeeds) :
    ∃ r, Resource.ofRequest? o = some r ∧ r.Supplied ∧ r.uri ≠ "" ∧
      ∃ origin, (s.reply turn).server.ownership.get? r.location = some { r with origin } := by
  obtain ⟨rejection, -, hreply⟩ | ⟨call, m, hread, happly, -, hcontinues⟩ := reply_cases h turn
  · exact absurd hsucceeds (Reply.not_succeeds_of_rejected (congrArg Reply.answer hreply))
  · have hsubject := (Call.subject?_of_read hread).symm.trans hoffers.subject?_eq
    have hcommand := (Call.repeats_of_read hread).command
    have hvalid := Call.valid_of_read hread
    rw [hcontinues.ownership_eq]
    cases call with
    | publish r =>
      obtain ⟨hsupplied, u, hparse, -⟩ := hvalid
      exact ⟨r, hsubject.symm, hsupplied, uri_ne_empty_of_parse? hparse, r.origin,
        OwnershipMap.get?_of_apply_publish happly⟩
    | share r path =>
      -- the stamp is the origin that a shared resource is given, and no part of its location
      obtain ⟨hsupplied, hpath⟩ := hvalid
      obtain ⟨u, hparse, -⟩ := Uri.scheme_of_localPath? hpath
      exact ⟨r, hsubject.symm, hsupplied, uri_ne_empty_of_parse? hparse, some s.origin,
        OwnershipMap.get?_of_apply_share happly⟩
    | remove | query | fetch | exchange =>
      -- no other command lists a resource
      obtain hother | hother := hoffers.command_eq hcommand <;> cases hother

/-- A query in the words of an entry finds that entry and no other, under the mask and with the
origin of the server that is asked. -/
theorem matching_of_get? (h : s.Sound) (hr : r.Supplied) (huri : r.uri ≠ "")
    {origin : Option String} (he : s.ownership.get? r.location = some { r with origin }) :
    s.matching r =
      [{ r with
        owner := if r.owner = "" then "" else Resource.ownerMask
        origin := some s.directory.self.origin
        size := none }] := by
  have hmatched : { r with origin : Resource }.matchedBy r = true :=
    r.matchedBy_assigned origin r.size
  have howner : (if r.owner.isEmpty then r.owner else Resource.ownerMask) =
      if r.owner = "" then "" else Resource.ownerMask := by
    simp only [String.isEmpty_iff]
    split
    next hempty => exact hempty
    next => rfl
  rw [matching, Catalog.filter_matchedBy h.unambiguous huri he hmatched, ← howner, ← hr.size_eq]
  rfl

/-- Whoever published or shared what a JSON value describes, with success and in whatever state the
server was, finds it by a query for this very value, as long as no request of the run publishes,
shares or removes anything at its location with success. Exactly one resource is found: it has the
cleaned texts of the value and the origin of this server, and bears the mask if the value names an
owner. -/
theorem visibility_run (secret : String) (directory : Directory) (before : List Turn)
    (write : Turn) (o : Json) (hoffers : Incoming.Offers write.text o)
    (hsucceeds : (((Server.mk secret {} directory).after before).reply write).Succeeds) :
    ∃ r, Resource.ofRequest? o = some r ∧
      ∀ (later : List Turn) (query : Turn),
        let s := (((Server.mk secret {} directory).after before).reply write).server
        (∀ event ∈ s.trace later, ¬ event.Writes r.location) →
        Incoming.LooksFor query.text o →
        let found : Resource :=
          { name := r.name, tags := r.tags, description := r.description, uri := r.uri,
            channel := r.channel, owner := if r.owner = "" then "" else Resource.ownerMask,
            origin := some directory.self.origin, size := none }
        (s.after later).reply query =
          { answer := .ok [.success, .frame found.render, .resultSize 1],
            server := s.after later } := by
  have hsound := sound_after secret directory before
  obtain ⟨r, hr, hsupplied, huri, origin, hlisted⟩ := exists_get?_of_offers hsound hoffers hsucceeds
  refine ⟨r, hr, ?_⟩
  intro later query s hkept hlooks found
  -- name and catalog of the server that is asked come from the run as a whole
  have hafter :
      (Server.mk secret {} directory).after (before ++ write :: later) = s.after later := by
    rw [after, List.foldl_append]
    rfl
  have hcontinues := continues_after (sound_empty secret directory) (before ++ write :: later)
  rw [hafter] at hcontinues
  have hentry := get?_after_of_not_writes (continues_reply hsound write).sound later hlisted hkept
  have hread : Call.read (s.after later).secret query.text = .ok (.query false r) :=
    hlooks.read_eq _ hr hsupplied.unmasked
  have hfound : (s.after later).matching r = [found] := by
    rw [matching_of_get? hcontinues.sound hsupplied huri hentry, hcontinues.self_eq]
  rw [reply_of_read hread, run_query hcontinues.sound.healthy, hfound, if_neg (by simp)]
  rfl

/-- The reply to a written request follows from the values that it was made of. -/
theorem reply_plain (s : Server) (q : Request) :
    s.reply (.plain q) =
      s.conclude (Turn.plain q).connector (s.handle (Turn.plain q).files q.received) := by
  rw [reply_eq_conclude, Turn.plain, begin?_render]

/-- A resource with blanks around its URI. -/
def padded : Resource := { name := "n", tags := ["T"], uri := " x:y ", owner := "u" }

/-- The padded resource as it is listed. -/
def trimmed : Resource := { padded with uri := "x:y" }

/-- Somebody else's claim on the location of that resource. -/
def rival : Resource := { uri := "x:y", owner := "v" }

/-- The padded resource is found after somebody else has failed to remove it. -/
theorem visibility_padded :
    let s := Server.start "s" ⟨"a", 1⟩
    let listing := (s.reply (.plain (.publish padded))).server
    let found := { trimmed with owner := "*", origin := some "a:1" }
    ((listing.after [.plain (.remove rival)]).reply (.plain (.query false padded))).answer =
      .ok [.success, .frame found.render, .resultSize 1] := by
  intro s listing found
  have hoffers : Incoming.Offers (Turn.plain (.publish padded)).text padded.toJson :=
    ⟨.inl (Incoming.command?_render _), Incoming.member?_render _ _⟩
  have hrelay : Incoming.relay? (Turn.plain (.query false padded)).text = some false := by
    rw [Turn.plain, Incoming.relay?, Incoming.member?_render]
    rfl
  have hlooks : Incoming.LooksFor (Turn.plain (.query false padded)).text padded.toJson :=
    ⟨Incoming.command?_render _, hrelay, Incoming.member?_render _ _⟩
  have hsucceeds : (s.reply (.plain (.publish padded))).Succeeds := by
    refine ⟨[], ?_⟩
    rw [reply_plain]
    decide +kernel
  have hlisting : listing = s.storing trimmed := by
    show (s.reply (.plain (.publish padded))).server = _
    rw [reply_plain]
    decide +kernel
  obtain ⟨r, hr, hvisible⟩ :=
    visibility_run "s" (.start ⟨"a", 1⟩) [] (.plain (.publish padded)) padded.toJson hoffers
      hsucceeds
  obtain rfl : r = trimmed := by
    rw [Resource.ofRequest?_toJson] at hr
    rw [← Option.some.inj hr]
    decide +kernel
  have hrefused : (listing.reply (.plain (.remove rival))).answer =
      .ok [.rejected .cannotRemove] := by
    rw [hlisting, reply_plain]
    decide +kernel
  have hfails : ¬ (listing.reply (.plain (.remove rival))).Succeeds :=
    Reply.not_succeeds_of_rejected hrefused
  have hkept : ∀ event ∈ listing.trace [.plain (.remove rival)],
      ¬ event.Writes trimmed.location := by
    intro event hevent
    obtain rfl := List.mem_singleton.mp hevent
    rintro ⟨-, -, hremoves⟩
    dsimp only [Event.reply] at hremoves
    exact hfails hremoves
  exact congrArg Reply.answer
    (hvisible [.plain (.remove rival)] (.plain (.query false padded)) hkept hlooks)

end Server

end FederatedCatalog
