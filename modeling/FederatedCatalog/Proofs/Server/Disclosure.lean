import FederatedCatalog.Proofs.Server.Provenance

/-!
# What answers disclose about files

A client who knows the secret learns from the answer to a share whether a file is there, and whoever
fetches that file learns its length. Nothing else about the files of the host shows in any answer or
in any catalog. So two hosts whose files look alike where requests with the secret point to cannot
be told apart, and without the secret no two hosts can.

## Main definitions

* `Incoming.disclosed?`: the path that a request with the secret points to;
* `Turn.Alike`: two turns with the same request, whose files look alike at some paths;
* `Server.replies`: the replies of a run, each with the server that it leaves.

## Main results

* `Server.Confined.reply_eq` and `Server.Confined.reply`: the step;
* `Server.disclosure_run`: the run.
-/

namespace FederatedCatalog

/-- The path on this host of the file that a request shares, if it bears this very secret. -/
def Incoming.disclosed? (secret text : String) : Option Path :=
  (shared? secret text).bind fun r => Uri.localPath? r.uri

theorem Incoming.disclosed?_eq_none {secret text : String} (h : secret? text ≠ some secret) :
    disclosed? secret text = none := by
  rw [disclosed?, shared?, if_neg h, Option.bind_none]

/-- The paths of the files that are shared with the secret in a run of turns. -/
def disclosed (secret : String) (turns : List Turn) : List Path :=
  (turns.map Turn.text).filterMap (Incoming.disclosed? secret)

theorem disclosed_eq_nil {secret : String} {turns : List Turn}
    (h : ∀ turn ∈ turns, Incoming.secret? turn.text ≠ some secret) :
    disclosed secret turns = [] := by
  rw [disclosed, List.filterMap_eq_nil_iff]
  intro text htext
  obtain ⟨turn, hturn, rfl⟩ := List.mem_map.mp htext
  exact Incoming.disclosed?_eq_none (h turn hturn)

theorem mem_disclosed_cons {secret : String} {turn : Turn} {turns : List Turn} {path : Path} :
    path ∈ disclosed secret (turn :: turns) ↔
      path ∈ Incoming.disclosed? secret turn.text ∨ path ∈ disclosed secret turns := by
  simp [disclosed]

/-- Two turns have the same request and the same other servers, and at each of these paths either
both have a regular file of one length or neither has a regular file. -/
structure Turn.Alike (paths : List Path) (a b : Turn) : Prop where
  text_eq : a.text = b.text
  connector_eq : a.connector = b.connector
  fileSize?_eq : ∀ path ∈ paths, (a.files path).fileSize? = (b.files path).fileSize?

namespace Server

/-- The replies of a run of turns, each with the server that it leaves. -/
def replies (s : Server) (turns : List Turn) : List Reply := (s.trace turns).map Event.reply

/-- The server is sound, and it lists no files on this host but those at these paths. -/
structure Confined (s : Server) (paths : List Path) : Prop where
  sound : s.Sound
  path_mem : ∀ l e path, s.ownership.get? l = some e → Uri.localPath? l.uri = some path →
    path ∈ paths

variable {s : Server} {paths : List Path}

/-- A call that was read from the request of a turn does not tell its files from others that look
alike at the paths of the server and of the request. -/
theorem Confined.run_eq (h : s.Confined paths) {a b : Turn} {call : Call} (hab : a.Alike paths b)
    (hshared : ∀ path ∈ Incoming.disclosed? s.secret a.text, path ∈ paths)
    (hread : Call.read s.secret a.text = .ok call) : s.run a.files call = s.run b.files call := by
  have hvalid := Call.valid_of_read hread
  cases call with
  | share r path =>
    -- who gets here has shown the secret, so the path is one that the request discloses
    have hr : Incoming.shared? s.secret a.text = some r := (Call.repeats_of_read hread).resource
    have hpath : path ∈ paths := by
      refine hshared path ?_
      rw [Incoming.disclosed?, hr, Option.bind_some]
      exact hvalid.2
    rw [run, run, hab.fileSize?_eq path hpath]
  | fetch t path =>
    rw [run_fetch h.sound.healthy, run_fetch h.sound.healthy]
    cases hlisted : s.ownership.get? t.location with
    | none => rfl
    | some stored =>
      rw [hab.fileSize?_eq path (h.path_mem t.location stored path hlisted hvalid.2)]
  | publish | remove | query | exchange => rfl

/-- The reply to a turn does not tell its files from others that look alike. -/
theorem Confined.reply_eq (h : s.Confined paths) {a b : Turn} (hab : a.Alike paths b)
    (hshared : ∀ path ∈ Incoming.disclosed? s.secret a.text, path ∈ paths) :
    s.reply a = s.reply b := by
  rw [reply_eq_conclude, reply_eq_conclude, begin?, begin?,
    ← hab.text_eq, ← hab.connector_eq]
  cases hread : Call.read s.secret a.text with
  | error rejection => rfl
  | ok call => exact congrArg _ (h.run_eq hab hshared hread)

/-- A turn adds no path but the one that its request discloses. -/
theorem Confined.reply (h : s.Confined paths) {turn : Turn}
    (hshared : ∀ path ∈ Incoming.disclosed? s.secret turn.text, path ∈ paths) :
    (s.reply turn).server.Confined paths where
  sound := (continues_reply h.sound turn).sound
  path_mem := by
    intro l e path he hpath
    obtain ⟨hshares, -⟩ | ⟨hkept, -⟩ :=
      shares_or_kept h.sound turn he (Option.isSome_iff_exists.mpr ⟨path, hpath⟩)
    · obtain ⟨r, hr, rfl⟩ := Option.map_eq_some_iff.mp hshares
      refine hshared path ?_
      rw [Incoming.disclosed?, hr, Option.bind_some]
      exact hpath
    · exact h.path_mem l e path hkept hpath

/-- Turns that are pairwise alike are replied to alike. -/
theorem Confined.replies_eq (h : s.Confined paths) {turns turns' : List Turn}
    (hturns : List.Forall₂ (Turn.Alike paths) turns turns')
    (hshared : ∀ path ∈ disclosed s.secret turns, path ∈ paths) :
    s.replies turns = s.replies turns' := by
  induction hturns generalizing s with
  | nil => rfl
  | @cons a b turns turns' hab _ ih =>
    have hfirst : ∀ path ∈ Incoming.disclosed? s.secret a.text, path ∈ paths := by
      intro path hpath
      exact hshared path (mem_disclosed_cons.mpr (.inl hpath))
    have heq : s.reply a = s.reply b := h.reply_eq hab hfirst
    -- the server that both turns leave has the same secret, so the rest discloses nothing else
    have hrest : ∀ path ∈ disclosed (s.reply a).server.secret turns, path ∈ paths := by
      intro path hpath
      rw [(continues_reply h.sound a).secret_eq] at hpath
      exact hshared path (mem_disclosed_cons.mpr (.inr hpath))
    have htail := ih (h.reply hfirst) hrest
    calc s.replies (a :: turns)
        = s.reply a :: (s.reply a).server.replies turns := rfl
      _ = s.reply b :: (s.reply b).server.replies turns' := by rw [htail, heq]
      _ = s.replies (b :: turns') := rfl

theorem confined_empty (secret : String) (directory : Directory) (paths : List Path) :
    (Server.mk secret {} directory).Confined paths :=
  ⟨sound_empty secret directory, fun _ _ _ he _ => by cases he⟩

/-- Two runs of the same requests from an empty catalog have the same replies and leave the same
servers, turn by turn, when their files look alike at the paths of the files that are shared with
the secret of the server. If no request bears the secret, they do so whatever the files are. -/
theorem disclosure_run (secret : String) (directory : Directory) (turns turns' : List Turn) :
    (List.Forall₂ (Turn.Alike (disclosed secret turns)) turns turns' →
      (Server.mk secret {} directory).replies turns =
        (Server.mk secret {} directory).replies turns') ∧
    ((∀ turn ∈ turns, Incoming.secret? turn.text ≠ some secret) →
      List.Forall₂ (Turn.Alike []) turns turns' →
      (Server.mk secret {} directory).replies turns =
        (Server.mk secret {} directory).replies turns') := by
  have hrun : List.Forall₂ (Turn.Alike (disclosed secret turns)) turns turns' →
      (Server.mk secret {} directory).replies turns =
        (Server.mk secret {} directory).replies turns' := by
    intro hturns
    exact (confined_empty secret directory _).replies_eq hturns fun path hpath => hpath
  refine ⟨hrun, fun hsecret hturns => ?_⟩
  rw [← disclosed_eq_nil hsecret] at hturns
  exact hrun hturns

/-- A turn with a written request on a host with an empty file at `/f` and the same entry at every
other path. -/
def probe (other : Entry) (q : Request) : Turn :=
  { files := fun path => if path = [47, 102] then .file .empty else other
    connector := fun _ _ => .crashed
    text := q.render }

/-- A file next to the one that is shared. -/
def hiddenFile : Resource := { uri := "file:///g" }

/-- One file is shared with the secret `s` and another one with a wrong secret. -/
def probes (other : Entry) : List Turn :=
  [probe other (.share "s" plainFile), probe other (.share "t" hiddenFile)]

theorem secret?_hiddenFile :
    Incoming.secret? (Request.share "t" hiddenFile).render ≠ some "s" := by
  rw [Incoming.secret?_render_share]
  decide

theorem disclosed_probes (other : Entry) : disclosed "s" (probes other) = [[47, 102]] := by
  have hread := Call.read_render_share supplied_plainFile "s" localPath?_plainFile
  have hshared : Incoming.shared? "s" (Request.share "s" plainFile).render = some plainFile :=
    (Call.repeats_of_read hread).resource
  have hright : Incoming.disclosed? "s" (Request.share "s" plainFile).render = some [47, 102] := by
    rw [Incoming.disclosed?, hshared, Option.bind_some, localPath?_plainFile]
  have hwrong := Incoming.disclosed?_eq_none secret?_hiddenFile
  have htexts : (probes other).map Turn.text =
      [(Request.share "s" plainFile).render, (Request.share "t" hiddenFile).render] := rfl
  rw [disclosed, htexts, List.filterMap_cons_some hright, List.filterMap_cons_none hwrong,
    List.filterMap_nil]

/-- With a wrong secret nobody learns whether there is a file next to one that was shared, and
whoever has only that secret learns nothing at all. -/
theorem disclosure_probes :
    plainServer.replies (probes .directory) = plainServer.replies (probes (.file .empty)) ∧
      plainServer.replies [probe .directory (.share "t" hiddenFile)] =
        plainServer.replies [probe (.file .empty) (.share "t" hiddenFile)] := by
  constructor
  · have halike (q : Request) :
        (probe .directory q).Alike [[47, 102]] (probe (.file .empty) q) := by
      refine ⟨rfl, rfl, fun path hpath => ?_⟩
      rw [List.mem_singleton.mp hpath]
      rfl
    refine (disclosure_run "s" (.start ⟨"a", 1⟩) (probes .directory) (probes (.file .empty))).1 ?_
    -- at the one path that the run discloses, both hosts have an empty file
    rw [disclosed_probes]
    exact .cons (halike _) (.cons (halike _) .nil)
  · refine (disclosure_run "s" (.start ⟨"a", 1⟩) _ _).2 ?_ (.cons ?_ .nil)
    · intro turn hturn
      obtain rfl := List.mem_singleton.mp hturn
      exact secret?_hiddenFile
    · exact ⟨rfl, rfl, fun path hpath => by cases hpath⟩

end Server

end FederatedCatalog
