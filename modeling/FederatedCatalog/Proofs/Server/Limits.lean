import FederatedCatalog.Proofs.Resource.Extent
import FederatedCatalog.Proofs.Server.Answers
import FederatedCatalog.Proofs.Server.Listing
import FederatedCatalog.Proofs.Server.Requests
import FederatedCatalog.Proofs.Server.Transfer

/-!
# Frames that fit

A frame that is too long is refused when it is written, and by then the success frame of the answer
has gone out. A server does not look at the length of what it lists, so whether its answers fit
depends on the requests: what is listed is written out again with members that the request left out,
with the origin of the server and with a size. When every request that lists something leaves room
for that, every answer is written in full.

## Main definitions

* `Peer.headroom`: the room that a request to list something has to leave;
* `Server.Bounded`: entries of a server that come from requests of bounded length.

## Main results

* `Server.Bounded.reply`: a turn keeps the bound;
* `Server.Bounded.frame_le`: every frame of an answer fits;
* `Server.limits_run`: every answer of a run is written in full;
* `Server.oversized_answer`: without that room, a request that fits leads to an answer that does
  not.
-/

namespace FederatedCatalog

open Json (quotedSize extent costOf sum_costOf_le)

/-! ### Requests that list something -/

namespace Incoming

/-- The request has the name of a command that lists a resource. -/
def Lists (text : String) : Prop :=
  command? text = some Command.publish.name ∨ command? text = some Command.share.name

variable {text secret : String} {r : Resource}

/-- What a request bears, with the bytes that the command and the resource take in it. -/
theorem exists_of_resource? {command : Command} {key : String}
    (h : resource? command key text = some r) :
    ∃ request v, Json.parse? text = some request ∧ Resource.ofRequest? v = some r ∧
      costOf "command" (request.get? "command") = 11 + quotedSize command.name ∧
      costOf key (request.get? key) = quotedSize key + 2 + extent v := by
  have hname := command?_of_resource? h
  rw [resource?, if_pos hname] at h
  obtain ⟨v, hv, hr⟩ := Option.bind_eq_some_iff.mp h
  obtain ⟨request, hrequest, hget⟩ := Option.bind_eq_some_iff.mp hv
  refine ⟨request, v, hrequest, hr, ?_, ?_⟩
  · rw [command?, member?, hrequest, Option.bind_some] at hname
    obtain ⟨member, hmember, hstring⟩ := Option.bind_eq_some_iff.mp hname
    have hkey : quotedSize "command" = 9 := by decide +kernel
    -- nothing but a string has a name
    cases member with
    | string s =>
      obtain rfl := Option.some.inj hstring
      simp only [hmember, costOf, Json.memberExtent, extent, hkey]
      omega
    | null | bool | number | array | object => cases hstring
  · simp only [hget, costOf, Json.memberExtent]
    omega

/-- A resource that is published takes at most 28 bytes more than its request. -/
theorem bareSize_le_of_published (h : resource? .publish "resource" text = some r)
    (huri : r.uri ≠ "") : r.bareSize ≤ text.utf8ByteSize + 28 := by
  obtain ⟨request, v, hrequest, hr, hcommand, hresource⟩ := exists_of_resource? h
  have hbare := Resource.bareSize_le_of_ofRequest? hr huri
  have htext := Json.extent_le_of_parse? hrequest
  have hkeys : ["command", "resource"].Nodup := by decide
  have hsum := sum_costOf_le hkeys request
  have hnames : quotedSize Command.publish.name = 9 ∧ quotedSize "resource" = 10 := by
    decide +kernel
  rw [hnames.1] at hcommand
  rw [hnames.2] at hresource
  -- the request takes 33 bytes beside the resource, and what the resource leaves out takes 61
  simp only [List.map_cons, List.map_nil, List.sum_cons, List.sum_nil, hcommand, hresource] at hsum
  omega

/-- A resource that is shared takes at most 18 bytes more than its request, which bears a secret
besides. -/
theorem bareSize_le_of_shared (h : shared? secret text = some r) (huri : r.uri ≠ "") :
    r.bareSize ≤ text.utf8ByteSize + 18 := by
  rw [shared?] at h
  split at h
  next hsecret =>
    obtain ⟨request, v, hrequest, hr, hcommand, hresource⟩ := exists_of_resource? h
    have hbare := Resource.bareSize_le_of_ofRequest? hr huri
    have htext := Json.extent_le_of_parse? hrequest
    have hkeys : ["command", "resource", "secret"].Nodup := by decide
    have hsum := sum_costOf_le hkeys request
    have hnames : quotedSize Command.share.name = 7 ∧ quotedSize "resource" = 10 ∧
        quotedSize "secret" = 8 := by
      decide +kernel
    -- the secret makes the request longer, so less is added to it than to one that publishes
    have hsecret' : 12 ≤ costOf "secret" (request.get? "secret") := by
      rw [secret?, member?, hrequest, Option.bind_some] at hsecret
      obtain ⟨member, hmember, hstring⟩ := Option.bind_eq_some_iff.mp hsecret
      cases member with
      | string s =>
        have hquotes := Json.quotedSize_eq s
        simp only [hmember, costOf, Json.memberExtent, extent, hnames.2.2]
        omega
      | null | bool | number | array | object => cases hstring
    rw [hnames.1] at hcommand
    rw [hnames.2.1] at hresource
    simp only [List.map_cons, List.map_nil, List.sum_cons, List.sum_nil, hcommand, hresource]
      at hsum
    omega
  next => cases h

end Incoming

theorem Uri.ne_empty_of_parse? {text : String} {u : Uri} (h : parse? text = some u) :
    text ≠ "" := by
  rintro rfl
  have hnone : parse? "" = none := by decide +kernel
  rw [hnone] at h
  cases h

/-! ### Entries of bounded length -/

/-- The room that a request has to leave for what the server adds when it writes the entry out: its
origin, a mask for the owner, a size, and members that the request left out. -/
def Peer.headroom (p : Peer) : Nat := 67 + quotedSize p.origin

/-- For a hostname of at most 255 bytes this is little. -/
theorem Peer.headroom_le {p : Peer} (h : p.hostname.utf8ByteSize ≤ 255) : p.headroom ≤ 1635 := by
  have hport : (toString p.port.toNat).utf8ByteSize ≤ 5 := by
    have hdigits := Json.utf8Len_natChars_le (by decide : 0 < 5)
      (Nat.lt_trans p.port.toNat_lt (by decide : 2 ^ 16 < 10 ^ 5))
    rw [Json.natChars, ← String.utf8ByteSize_ofList] at hdigits
    exact hdigits
  have hcolon : (":" : String).utf8ByteSize = 1 := by decide
  -- each byte of the origin takes at most six between quotes
  have hquoted := Json.quotedSize_le p.origin
  have horigin : p.origin.utf8ByteSize ≤ 261 := by
    rw [origin, String.utf8ByteSize_append, String.utf8ByteSize_append, hcolon]
    omega
  rw [headroom]
  omega

/-- The resource was read from a request of at most `limit` bytes: one with an origin was shared,
any other one published. -/
def Resource.Fits (limit : Nat) (r : Resource) : Prop :=
  r.bareSize ≤ limit + if r.origin.isSome then 18 else 28

namespace Server

/-- The server is tidy, and its entries come from requests of at most `limit` bytes. -/
structure Bounded (limit : Nat) (s : Server) : Prop where
  tidy : s.Tidy
  fits : ∀ l, ∀ e ∈ s.ownership.get? l, e.Fits limit

variable {s : Server} {limit : Nat}

/-- A turn keeps the bound when its request does, if it lists something. -/
theorem Bounded.reply (h : s.Bounded limit) {turn : Turn}
    (hturn : Incoming.Lists turn.text → turn.text.utf8ByteSize ≤ limit) :
    (s.reply turn).server.Bounded limit where
  tidy := h.tidy.reply turn
  fits := by
    intro l e he
    obtain ⟨rejection, -, hreply⟩ | ⟨call, m, hread, happly, -, hcontinues⟩ :=
      reply_cases h.tidy.sound turn
    · rw [hreply] at he
      exact h.fits l e he
    · rw [hcontinues.ownership_eq] at he
      have hrepeats := Call.repeats_of_read hread
      have hvalid := Call.valid_of_read hread
      obtain ⟨r, rfl, rfl, -⟩ | ⟨r, path, rfl, rfl, -⟩ | ⟨hkept, -⟩ :=
        OwnershipMap.entry_cases happly he
      · have hlimit := hturn (.inl hrepeats.command)
        obtain ⟨hsupplied, u, hparse, -⟩ := hvalid
        have hbare := Incoming.bareSize_le_of_published hrepeats.resource
          (Uri.ne_empty_of_parse? hparse)
        rw [Resource.Fits, hsupplied.origin_eq]
        exact Nat.le_trans hbare (Nat.add_le_add_right hlimit 28)
      · have hlimit := hturn (.inr hrepeats.command)
        obtain ⟨u, hparse, -⟩ := Uri.scheme_of_localPath? hvalid.2
        have hbare := Incoming.bareSize_le_of_shared hrepeats.resource
          (Uri.ne_empty_of_parse? hparse)
        -- the stamp is no part of the bare size
        exact Nat.le_trans hbare (Nat.add_le_add_right hlimit 18)
      · exact h.fits l e hkept

theorem Bounded.after (h : s.Bounded limit) {turns : List Turn}
    (hturns : ∀ turn ∈ turns, Incoming.Lists turn.text → turn.text.utf8ByteSize ≤ limit) :
    (s.after turns).Bounded limit := by
  induction turns generalizing s with
  | nil => exact h
  | cons turn turns ih =>
    have hfirst := h.reply (hturns turn List.mem_cons_self)
    exact ih hfirst fun later hlater => hturns later (List.mem_cons_of_mem turn hlater)

theorem bounded_empty (secret : String) (directory : Directory) (limit : Nat) :
    (Server.mk secret {} directory).Bounded limit where
  tidy := tidy_after secret directory []
  fits := fun l e he => by cases he

end Server

/-! ### Frames of bounded length -/

/-- A count frame is short while the count fits 64 bits. -/
theorem Status.utf8ByteSize_resultSize {n : Nat} (h : n < UInt64.size) :
    (resultSize n).render.utf8ByteSize ≤ 35 := by
  have hdigits := Json.utf8Len_natChars_le (by decide : 0 < 20)
    (Nat.lt_trans h (by decide : UInt64.size < 10 ^ 20))
  have hkey : quotedSize "resultSize" = 12 := by decide +kernel
  have hnumber : String.utf8Len (Json.chars (.ofNat n)) = String.utf8Len (Json.natChars n) := by
    rw [Json.ofNat, Json.chars, Json.Number.chars]
    rfl
  rw [render, Json.render, String.utf8ByteSize_ofList, toJson, Json.utf8Len_chars_object,
    Json.listSize]
  simp only [List.map_cons, List.map_nil, List.sum_cons, List.sum_nil, Json.utf8Len_memberText,
    hkey, hnumber]
  omega

namespace Server

variable {s : Server} {limit : Nat}

/-- The bytes of an entry, with what a query adds to it. -/
theorem Bounded.matching_le (h : s.Bounded limit) {t r : Resource} (hr : r ∈ s.matching t) :
    r.render.utf8ByteSize ≤ limit + s.directory.self.headroom := by
  obtain ⟨e, he, rfl⟩ := List.mem_map.mp hr
  have hget : s.ownership.get? e.location = some e :=
    (Catalog.get?_eq_some_iff h.tidy.sound.unambiguous).mpr ⟨(List.mem_filter.mp he).1, rfl⟩
  have hsize : (e.sanitized s.origin).size = none := (h.tidy.listable e.location e hget).size_eq
  have horigin : (e.sanitized s.origin).origin = some s.directory.self.origin := rfl
  have hbare := Resource.bareSize_sanitized_le e s.origin
  have hfits : e.bareSize ≤ limit + 28 := by
    have hentry := h.fits e.location e hget
    rw [Resource.Fits] at hentry
    split at hentry <;> omega
  rw [Resource.utf8ByteSize_render, hsize, horigin, Option.elim_none, Option.elim_some,
    Peer.headroom]
  omega

/-- The bytes of the description of a file. Its entry was shared, so its request had a secret. -/
theorem Bounded.description_le (h : s.Bounded limit) {t stored : Resource} {path : Path}
    (hpath : Uri.localPath? t.uri = some path)
    (hlisted : s.ownership.get? t.location = some stored) (size : UInt64) :
    (s.description stored size).render.utf8ByteSize ≤ limit + s.directory.self.headroom := by
  -- whatever is listed under a file URI has an origin
  have hshared : stored.origin.isSome := by
    obtain ⟨u, hparse, hplaced⟩ := (h.tidy.listable t.location stored hlisted).placed
    obtain ⟨u', hparse', hscheme⟩ := Uri.scheme_of_localPath? hpath
    have hlocation : stored.location = t.location :=
      ((Catalog.get?_eq_some_iff h.tidy.sound.unambiguous).mp hlisted).2
    rw [show stored.uri = t.uri from congrArg Location.uri hlocation, hparse'] at hparse
    obtain rfl := Option.some.inj hparse
    rw [if_pos hscheme] at hplaced
    rw [hplaced.1]
    rfl
  have hfits : stored.bareSize ≤ limit + 18 := by
    have hentry := h.fits t.location stored hlisted
    rwa [Resource.Fits, if_pos hshared] at hentry
  -- an empty owner is masked here too, which takes one more byte
  have hbare : (s.description stored size).bareSize ≤ stored.bareSize + 1 := by
    have howner := Json.quotedSize_eq stored.owner
    simp only [Resource.bareSize, description, Resource.sanitized, Resource.quotedSize_ownerMask]
    omega
  have hdigits := Json.utf8Len_natChars_le (by decide : 0 < 20)
    (Nat.lt_trans size.toNat_lt (by decide : 2 ^ 64 < 10 ^ 20))
  have hsize : (s.description stored size).size = some size := rfl
  have horigin : (s.description stored size).origin = some s.directory.self.origin := rfl
  rw [Resource.utf8ByteSize_render, hsize, horigin, Option.elim_some, Option.elim_some,
    Peer.headroom]
  omega

/-- The frames of an answer fit when the entries leave room and no other server is asked. -/
theorem Bounded.frame_le (h : s.Bounded limit) {turn : Turn} {messages : List Message}
    (hanswer : (s.reply turn).answer = .ok messages)
    (hlimit : limit + s.directory.self.headroom ≤ Frame.maxLength)
    (halone : s.directory.others = []) (hcount : s.catalog.entries.length < UInt64.size)
    {text : String} (hframe : .frame text ∈ messages) : text.utf8ByteSize ≤ Frame.maxLength := by
  have hcountFrame {n : Nat} (hn : n < UInt64.size) :
      (Status.resultSize n).render.utf8ByteSize ≤ Frame.maxLength :=
    Nat.le_trans (Status.utf8ByteSize_resultSize hn) (by decide)
  obtain ⟨rejection, hrejected⟩ | ⟨call, messages', hread, hanswer', hanswered⟩ :=
    answer_cases h.tidy.sound turn
  · obtain rfl := Except.ok.inj (hanswer.symm.trans hrejected)
    obtain rfl := Message.frame.inj (List.mem_singleton.mp hframe)
    exact Status.utf8ByteSize_error rejection
  · obtain rfl := Except.ok.inj (hanswer.symm.trans hanswer')
    cases hanswered with
    | publish | remove | share | exchange =>
      obtain rfl := Message.frame.inj (List.mem_singleton.mp hframe)
      exact length_status.1
    -- only these two write something out that was listed
    | query relay t others hothers =>
      rw [hothers halone, List.append_nil, queryAnswer, List.mem_append, List.mem_cons,
        List.mem_map, List.mem_singleton] at hframe
      obtain (hsuccess | ⟨r, hr, hrender⟩) | hsize := hframe
      · obtain rfl := Message.frame.inj hsuccess
        exact length_status.1
      · obtain rfl := Message.frame.inj hrender
        exact Nat.le_trans (h.matching_le hr) hlimit
      · obtain rfl := Message.frame.inj hsize
        refine hcountFrame (Nat.lt_of_le_of_lt ?_ hcount)
        rw [matching, List.length_map]
        exact List.length_filter_le _ _
    | fetch t path stored size hlisted hpresent =>
      have hpath : Uri.localPath? t.uri = some path := (Call.valid_of_read hread).2
      simp only [List.mem_cons, List.not_mem_nil, or_false, reduceCtorEq, false_or] at hframe
      obtain hsuccess | hdescription | hsize := hframe
      · obtain rfl := Message.frame.inj hsuccess
        exact length_status.1
      · obtain rfl := Message.frame.inj hdescription
        exact Nat.le_trans (h.description_le hpath hlisted size) hlimit
      · obtain rfl := Message.frame.inj hsize
        exact length_status.2

end Server

/-! ### Answers that are written in full -/

namespace Server

/-- A run from an empty catalog of a server that knows no other server, in which every request that
lists something leaves room: the next request gets an answer, its frames fit, and when the bytes
that it announces can still be read, the whole answer is written. For that each of its files must
still open and must not have shrunk; one that cannot be opened is absent from the later file system,
and then nothing is said about what is written. The catalog must have fewer entries than 64 bits
count. -/
theorem limits_run (secret : String) (directory : Directory) (turns : List Turn) (turn : Turn)
    (hhost : directory.self.hostname.utf8ByteSize ≤ 255)
    (hroom : ∀ earlier ∈ turns, Incoming.Lists earlier.text →
      earlier.text.utf8ByteSize + directory.self.headroom ≤ Frame.maxLength)
    (halone : ((Server.mk secret {} directory).after turns).directory.others = [])
    (hcount : ((Server.mk secret {} directory).after turns).catalog.entries.length < UInt64.size) :
    let s := (Server.mk secret {} directory).after turns
    directory.self.headroom ≤ 1635 ∧
    ∃ messages, (s.reply turn).answer = .ok messages ∧
      (∀ text, .frame text ∈ messages → text.utf8ByteSize ≤ Frame.maxLength) ∧
      ∀ (later : FileSystem) (input : Source), (Frame.read input).1 = .ok (some turn.text) →
        (∀ path size, .file path size ∈ messages →
          ∃ content, later path = .file content ∧ size.toNat ≤ content.bytes.size) →
        let served := s.serve turn.files later turn.connector input {}
        served.result = .ok () ∧ served.sink.accepted = Message.stream later messages := by
  intro s
  have hheadroom := Peer.headroom_le hhost
  have hself : s.directory.self = directory.self :=
    (continues_after (sound_empty secret directory) turns).self_eq
  have hbounded : s.Bounded (Frame.maxLength - directory.self.headroom) := by
    refine (bounded_empty secret directory _).after fun earlier hearlier hlists => ?_
    have htext := hroom earlier hearlier hlists
    omega
  have hlimit : Frame.maxLength - directory.self.headroom + s.directory.self.headroom ≤
      Frame.maxLength := by
    rw [hself, Frame.maxLength]
    omega
  obtain ⟨messages, hanswer⟩ : ∃ messages, (s.reply turn).answer = .ok messages := by
    obtain ⟨rejection, hrejected⟩ | ⟨call, messages, -, hanswer, -⟩ :=
      answer_cases hbounded.tidy.sound turn
    · exact ⟨_, hrejected⟩
    · exact ⟨messages, hanswer⟩
  have hframes : ∀ text, .frame text ∈ messages → text.utf8ByteSize ≤ Frame.maxLength :=
    fun text htext => hbounded.frame_le hanswer hlimit halone hcount htext
  refine ⟨hheadroom, messages, hanswer, hframes, fun later input hinput hfiles => ?_⟩
  have hwritable : ∀ message ∈ messages, message.Writable later := by
    intro message hmessage
    cases message with
    | frame text => exact hframes text hmessage
    | file path size => exact hfiles path size hmessage
  intro served
  have hserved : served = _ := serve_of_answer later turn.connector hinput hanswer
  rw [Frame.openSink_empty, writeMessages_eq hwritable] at hserved
  rw [hserved]
  exact ⟨rfl, ByteArray.empty_append⟩

/-! ### An answer that does not fit -/

/-- A resource with a description of `n` letters. -/
def wordy (n : Nat) : Resource :=
  { description := String.ofList (List.replicate n 'a'), uri := "x:a" }

theorem supplied_wordy (n : Nat) : (wordy n).Supplied where
  clean := by
    have hletters : Text.IsClean (wordy n).description :=
      Text.isClean_replicate n (by decide) (by decide)
    intro text htext
    simp only [Resource.texts, List.mem_cons] at htext
    obtain rfl | rfl | rfl | rfl | rfl | htag := htext
    · exact (by decide : Text.IsClean "")
    · exact hletters
    · exact (by decide : Text.IsClean "x:a")
    · exact (by decide : Text.IsClean "")
    · exact (by decide : Text.IsClean "")
    · cases htag
  origin_eq := rfl
  size_eq := rfl
  unmasked := (by decide : ("" == Resource.ownerMask) = false)

theorem bareSize_wordy (n : Nat) : (wordy n).bareSize = n + 74 := by
  have hletters : quotedSize (wordy n).description = n + 2 :=
    Json.quotedSize_replicate n (by decide)
  have hempty : quotedSize "" = 2 ∧ Resource.tagsSize [] = 2 ∧ quotedSize "x:a" = 5 := by
    decide +kernel
  rw [Resource.bareSize, hletters]
  simp only [wordy, hempty]
  omega

/-- A written request to publish takes 33 bytes beside its resource. -/
theorem utf8ByteSize_render_publish (r : Resource) :
    (Request.publish r).render.utf8ByteSize = 33 + r.render.utf8ByteSize := by
  have hkeys : quotedSize "command" = 9 ∧ quotedSize "resource" = 10 ∧
      String.utf8Len (Json.chars (.string Command.publish.name)) = 9 := by
    decide +kernel
  rw [Request.render, Resource.render, Json.render, Json.render, String.utf8ByteSize_ofList,
    String.utf8ByteSize_ofList, Request.toJson, Json.utf8Len_chars_object, Json.listSize]
  simp only [Request.arguments, Request.command, List.map_cons, List.map_nil, List.sum_cons,
    List.sum_nil, Json.utf8Len_memberText, hkeys]
  omega

/-- A server with a hostname of 19 bytes. -/
def wideServer : Server := { secret := "s", directory := .start ⟨"catalog.example.org", 3000⟩ }

theorem after_wordy (n : Nat) :
    wideServer.after [.plain (.publish (wordy n))] = wideServer.storing (wordy n) := by
  have hparse : Uri.parse? "x:a" = some { scheme := "x" } := by decide +kernel
  have hread : Call.read wideServer.secret (Turn.plain (.publish (wordy n))).text =
      .ok (.publish (wordy n)) :=
    Call.read_render_publish (supplied_wordy n) "s" hparse (by decide)
  rw [after, List.foldl_cons, List.foldl_nil, reply_of_read hread]
  rfl

/-- The resource stands in the answer to a query with an empty template. -/
theorem answer_wordy (n : Nat) :
    ((wideServer.storing (wordy n)).reply (.plain (.query false {}))).answer =
      .ok (queryAnswer [(wordy n).sanitized wideServer.origin]) := by
  have hread : Call.read (wideServer.storing (wordy n)).secret
      (Turn.plain (.query false {})).text = .ok (.query false {}) :=
    Call.read_render_query "s" false {} (by decide)
  rw [reply_of_read hread, run_query rfl]
  rfl

theorem utf8ByteSize_wordy (n : Nat) :
    ((wordy n).sanitized wideServer.origin).render.utf8ByteSize = n + 112 := by
  have horigin : quotedSize wideServer.origin = 26 := by decide +kernel
  have hbare : ((wordy n).sanitized wideServer.origin).bareSize = (wordy n).bareSize := rfl
  rw [Resource.utf8ByteSize_render, hbare, bareSize_wordy]
  simp only [Resource.sanitized, wordy, Option.elim_none, Option.elim_some, horigin]

/-- A resource with a short description is listed and handed out in full. -/
theorem limits_wordy :
    let s := wideServer.after [.plain (.publish (wordy 3))]
    let query := Turn.plain (.query false {})
    wideServer.directory.self.headroom ≤ 1635 ∧
      let served := s.serve query.files query.files query.connector
        (.ofBytes (Frame.encode query.text)) {}
      served.result = .ok () ∧ served.sink.accepted =
        Message.stream query.files (queryAnswer [(wordy 3).sanitized wideServer.origin]) := by
  intro s query
  have hs : s = wideServer.storing (wordy 3) := after_wordy 3
  have hroom : ∀ earlier ∈ [Turn.plain (.publish (wordy 3))], Incoming.Lists earlier.text →
      earlier.text.utf8ByteSize + wideServer.directory.self.headroom ≤ Frame.maxLength := by
    intro earlier hearlier _
    obtain rfl := List.mem_singleton.mp hearlier
    rw [Turn.plain, utf8ByteSize_render_publish, Resource.utf8ByteSize_render, bareSize_wordy]
    decide +kernel
  have halone : s.directory.others = [] := by
    rw [hs]
    decide
  have hwide : Server.mk "s" {} (.start ⟨"catalog.example.org", 3000⟩) = wideServer := rfl
  have hcount : ((Server.mk "s" {} (.start ⟨"catalog.example.org", 3000⟩)).after
      [.plain (.publish (wordy 3))]).catalog.entries.length < UInt64.size := by
    rw [hwide, after_wordy]
    decide
  obtain ⟨hheadroom, messages, hanswer, -, hserved⟩ :=
    limits_run "s" (.start ⟨"catalog.example.org", 3000⟩) [.plain (.publish (wordy 3))] query
      (by decide) hroom halone hcount
  have hmessages : queryAnswer [(wordy 3).sanitized wideServer.origin] = messages := by
    have hexpected := answer_wordy 3
    rw [← hs] at hexpected
    exact Except.ok.inj (hexpected.symm.trans hanswer)
  have hinput : (Frame.read (.ofBytes (Frame.encode query.text))).1 = .ok (some query.text) := by
    have hlength : query.text.utf8ByteSize ≤ Frame.maxLength := by decide +kernel
    obtain ⟨source, hread, -⟩ := Frame.read_encode
      ((Source.rest_ofBytes _).trans ByteArray.append_empty.symm) hlength
    rw [hread]
  refine ⟨hheadroom, ?_⟩
  rw [hmessages]
  refine hserved query.files _ hinput fun path size hfile => ?_
  rw [← hmessages] at hfile
  exact absurd hfile (file_notMem_queryAnswer _ path size)

/-- An answer with a frame that is too long breaks off after the success frame. -/
theorem writeMessages_queryAnswer {later : FileSystem} {r : Resource} {found : List Resource}
    (h : Frame.maxLength < r.render.utf8ByteSize) :
    writeMessages later {} (queryAnswer (r :: found)) =
      (.error (.frameTooLarge r.render.utf8ByteSize),
        Frame.openSink (Frame.encode Status.success.render)) := by
  have hsuccess := Frame.write_eq .empty length_status.1
  rw [ByteArray.empty_append] at hsuccess
  have hrefused (sink : Sink) : Frame.write sink r.render =
      (.error (.frameTooLarge r.render.utf8ByteSize), sink) := by
    rw [Frame.write, if_pos h]
  simp only [queryAnswer, List.map_cons, List.cons_append, Message.success, writeMessages,
    writeMessage, Frame.openSink_empty, hsuccess, hrefused]

/-- A request of exactly the length of a frame makes a server that knows no other list a resource
with which the answer to a query breaks off after the success frame. -/
theorem oversized_answer :
    let published := Turn.plain (.publish (wordy 10485653))
    let s := wideServer.after [published]
    let messages := queryAnswer [(wordy 10485653).sanitized wideServer.origin]
    wideServer.directory.self.hostname.utf8ByteSize ≤ 255 ∧
      published.text.utf8ByteSize = Frame.maxLength ∧ s.directory.others = [] ∧
      (s.reply (.plain (.query false {}))).answer = .ok messages ∧
      ∃ text, .frame text ∈ messages ∧ Frame.maxLength < text.utf8ByteSize ∧
        writeMessages (fun _ => .file .empty) {} messages =
          (.error (.frameTooLarge text.utf8ByteSize),
            Frame.openSink (Frame.encode Status.success.render)) := by
  intro published s messages
  have hpublished : published.text.utf8ByteSize = Frame.maxLength := by
    rw [show published.text = (Request.publish (wordy 10485653)).render from rfl,
      utf8ByteSize_render_publish, Resource.utf8ByteSize_render, bareSize_wordy]
    rfl
  have hlong : Frame.maxLength <
      ((wordy 10485653).sanitized wideServer.origin).render.utf8ByteSize := by
    rw [utf8ByteSize_wordy]
    decide
  have hanswer := answer_wordy 10485653
  rw [← after_wordy] at hanswer
  have halone : s.directory.others = [] := by
    rw [show s = wideServer.storing (wordy 10485653) from after_wordy 10485653]
    decide
  refine ⟨by decide, hpublished, halone, hanswer, _, ?_, hlong, writeMessages_queryAnswer hlong⟩
  simp [messages, queryAnswer]

end Server

end FederatedCatalog
