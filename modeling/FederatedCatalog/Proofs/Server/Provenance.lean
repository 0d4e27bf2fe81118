import FederatedCatalog.Proofs.Server.Answers
import FederatedCatalog.Proofs.Server.Requests
import Mathlib.Data.List.Induction

/-!
# Where files come from

A server hands out a file only because somebody who knew its secret shared the location of the file
earlier, and nobody has removed it since. Nothing else puts a file into a catalog, neither
publishing nor an answer of another server.

## Main definitions

* `Event`, `Server.trace`: a turn with the server that takes it, and the events of a run;
* `Event.Shares`, `Event.Removes`: an event shares or removes a location with success.

## Main results

* `Server.shares_or_kept`: the step: an entry at a file location was shared just now or kept;
* `Server.exists_share_of_listed`: the run: the entry was shared and has not been removed since;
* `Server.provenance_run`: every file that is handed out was shared and not removed since.
-/

namespace FederatedCatalog

/-- A turn, with the server that takes it. -/
structure Event where
  /-- The server before the turn. -/
  server : Server
  /-- The turn. -/
  turn : Turn

namespace Event

/-- The reply to the request of the turn. -/
def reply (event : Event) : Reply := event.server.reply event.turn

/-- The request bears this secret, shares a resource at the location, and succeeds. -/
def Shares (event : Event) (secret : String) (l : Location) : Prop :=
  (Incoming.shared? secret event.turn.text).map Resource.location = some l ∧ event.reply.Succeeds

/-- The request removes a resource at the location, and succeeds. -/
def Removes (event : Event) (l : Location) : Prop :=
  (Incoming.removed? event.turn.text).map Resource.location = some l ∧ event.reply.Succeeds

end Event

namespace Server

/-- The events of a run of turns. -/
def trace (s : Server) : List Turn → List Event
  | [] => []
  | turn :: turns => ⟨s, turn⟩ :: (s.reply turn).server.trace turns

theorem trace_concat (s : Server) (turns : List Turn) (turn : Turn) :
    s.trace (turns ++ [turn]) = s.trace turns ++ [⟨s.after turns, turn⟩] := by
  induction turns generalizing s with
  | nil => rfl
  | cons first turns ih => exact congrArg (⟨s, first⟩ :: ·) (ih (s.reply first).server)

theorem after_concat (s : Server) (turns : List Turn) (turn : Turn) :
    s.after (turns ++ [turn]) = ((s.after turns).reply turn).server := by
  rw [after, List.foldl_append]
  rfl

variable {s : Server} {l : Location}

/-- A file on this host is never published: its location was shared. -/
theorem not_isSome_localPath?_of_publish {r : Resource} (h : (Call.publish r).Valid) :
    ¬ (Uri.localPath? r.uri).isSome := by
  intro hlocal
  obtain ⟨path, hpath⟩ := Option.isSome_iff_exists.mp hlocal
  obtain ⟨-, u, hparse, hscheme⟩ := h
  obtain ⟨u', hparse', hfile⟩ := Uri.scheme_of_localPath? hpath
  obtain rfl := Option.some.inj (hparse.symm.trans hparse')
  exact hscheme hfile

/-- After a turn, an entry at the location of a file on this host was shared by the turn, or it
stood there before and the turn does not remove it. -/
theorem shares_or_kept (h : s.Sound) (turn : Turn) {e : Resource}
    (he : (s.reply turn).server.ownership.get? l = some e)
    (hlocal : (Uri.localPath? l.uri).isSome) :
    Event.Shares ⟨s, turn⟩ s.secret l ∨
      s.ownership.get? l = some e ∧ ¬ Event.Removes ⟨s, turn⟩ l := by
  obtain ⟨rejection, -, hreply⟩ | ⟨call, m, hread, happly, hsucceeds, hcontinues⟩ :=
    reply_cases h turn
  · -- a request that is turned down changes nothing and removes nothing
    rw [hreply] at he
    refine .inr ⟨he, fun hremoves => ?_⟩
    exact Reply.not_succeeds_of_rejected (congrArg Reply.answer hreply) hremoves.2
  · rw [hcontinues.ownership_eq] at he
    have hrepeats := Call.repeats_of_read hread
    obtain ⟨r, rfl, -, rfl⟩ | ⟨r, path, rfl, -, rfl⟩ | ⟨hkept, hremove⟩ :=
      OwnershipMap.entry_cases happly he
    · exact absurd hlocal (not_isSome_localPath?_of_publish (Call.valid_of_read hread))
    · refine .inl ⟨?_, hsucceeds⟩
      have hshared : Incoming.shared? s.secret turn.text = some r := hrepeats.resource
      rw [hshared, Option.map_some]
    · refine .inr ⟨hkept, fun hremoves => ?_⟩
      obtain ⟨r, hr, hl⟩ := Option.map_eq_some_iff.mp hremoves.1
      exact hremove r (hrepeats.eq_remove hr) hl.symm

/-- After a run from an empty catalog, an entry at the location of a file on this host was shared
with the secret of the server, and since then nobody shared or removed its location. -/
theorem exists_share_of_listed (secret : String) (directory : Directory) (turns : List Turn)
    {e : Resource} (hlocal : (Uri.localPath? l.uri).isSome)
    (he : ((Server.mk secret {} directory).after turns).ownership.get? l = some e) :
    ∃ before shared later,
      (Server.mk secret {} directory).trace turns = before ++ shared :: later ∧
      shared.Shares secret l ∧
      ∀ event ∈ later, ¬ event.Shares secret l ∧ ¬ event.Removes l := by
  -- from the end of the run backwards, so that the first share that is met is the last one
  induction turns using List.reverseRecOn generalizing e with
  | nil => cases he
  | append_singleton turns turn ih =>
    let s := (Server.mk secret {} directory).after turns
    have hcontinues : (Server.mk secret {} directory).Continues s.ownership s :=
      continues_after (sound_empty secret directory) turns
    have hsecret : s.secret = secret := hcontinues.secret_eq
    rw [after_concat] at he
    rw [trace_concat]
    by_cases hshares : Event.Shares ⟨s, turn⟩ secret l
    · exact ⟨_, _, [], rfl, hshares, fun event hevent => by cases hevent⟩
    · obtain hshares' | ⟨hkept, hremoves⟩ := shares_or_kept hcontinues.sound turn he hlocal
      · exact absurd (hsecret ▸ hshares') hshares
      · obtain ⟨before, shared, later, htrace, hshared, hlater⟩ := ih hkept
        refine ⟨before, shared, later ++ [⟨s, turn⟩], ?_, hshared, ?_⟩
        · rw [htrace, List.append_assoc, List.cons_append]
        · intro event hevent
          obtain hevent | hevent := List.mem_append.mp hevent
          · exact hlater event hevent
          · obtain rfl := List.mem_singleton.mp hevent
            exact ⟨hshares, hremoves⟩

/-- When a request of a run from an empty catalog is answered with a file, it is a fetch, the path
is the one that the URI of its template names on this host, and some earlier request of the run
shared the location of the template with the secret of the server and succeeded. After the last such
request no removal of that location has succeeded. -/
theorem provenance_run (secret : String) (directory : Directory) (turns : List Turn) (turn : Turn)
    (messages : List Message) (path : Path) (size : UInt64)
    (hanswer : (((Server.mk secret {} directory).after turns).reply turn).answer = .ok messages)
    (hfile : .file path size ∈ messages) :
    ∃ t, Incoming.fetched? turn.text = some t ∧ Uri.localPath? t.uri = some path ∧
      ∃ before shared later,
        (Server.mk secret {} directory).trace turns = before ++ shared :: later ∧
        shared.Shares secret t.location ∧
        ∀ event ∈ later, ¬ event.Shares secret t.location ∧ ¬ event.Removes t.location := by
  obtain ⟨t, stored, hread, hlisted⟩ :=
    exists_fetch_of_file_mem (sound_after secret directory turns) hanswer hfile
  obtain ⟨-, hpath⟩ := Call.valid_of_read hread
  refine ⟨t, (Call.repeats_of_read hread).resource, hpath, ?_⟩
  refine exists_share_of_listed secret directory turns ?_ hlisted
  exact Option.isSome_iff_exists.mpr ⟨path, hpath⟩

/-- A file with nothing but a URI. -/
def plainFile : Resource := { uri := "file:///f" }

theorem supplied_plainFile : plainFile.Supplied := by
  constructor <;> decide

theorem localPath?_plainFile : Uri.localPath? plainFile.uri = some [47, 102] := by
  decide +kernel

/-- A server that lists nothing yet. -/
def plainServer : Server := { secret := "s", directory := .start ⟨"a", 1⟩ }

/-- That server hands the file out after it was shared. -/
theorem provenance_plainFile :
    let turns := [Turn.plain (.share "s" plainFile)]
    let answer := [.success, .frame (plainServer.description plainFile 0).render,
      .file [47, 102] 0, .resultSize 1]
    ((plainServer.after turns).reply (.plain (.fetch plainFile))).answer = .ok answer ∧
      ∃ t, Incoming.fetched? (Request.fetch plainFile).render = some t ∧
        Uri.localPath? t.uri = some [47, 102] ∧
        ∃ before shared later, plainServer.trace turns = before ++ shared :: later ∧
          shared.Shares "s" t.location ∧
          ∀ event ∈ later, ¬ event.Shares "s" t.location ∧ ¬ event.Removes t.location := by
  intro turns answer
  let lister := plainServer.storing { plainFile with origin := some "a:1" }
  have hshare : Call.read plainServer.secret (Turn.plain (.share "s" plainFile)).text =
      .ok (.share plainFile [47, 102]) :=
    Call.read_render_share supplied_plainFile "s" localPath?_plainFile
  have hfetch : Call.read lister.secret (Turn.plain (.fetch plainFile)).text =
      .ok (.fetch plainFile [47, 102]) :=
    Call.read_render_fetch supplied_plainFile "s" localPath?_plainFile
  have hlister : plainServer.after turns = lister := by
    rw [after, List.foldl_cons, List.foldl_nil, reply_of_read hshare]
    rfl
  have hanswer : ((plainServer.after turns).reply (.plain (.fetch plainFile))).answer =
      .ok answer := by
    rw [hlister, reply_of_read hfetch]
    rfl
  have hfile : .file [47, 102] 0 ∈ answer := by simp [answer]
  refine ⟨hanswer, ?_⟩
  exact provenance_run "s" (.start ⟨"a", 1⟩) turns (.plain (.fetch plainFile)) answer [47, 102] 0
    hanswer hfile

end Server

end FederatedCatalog
