import FederatedCatalog.Proofs.Client.Fetching
import FederatedCatalog.Proofs.Server.Connection
import FederatedCatalog.Proofs.Server.Effects

/-!
# Fetching a file

The bytes of a file travel between two frames without a mark of their own. The client finds where
they end by the size in the description before them. Whatever the bytes are, and however the
connection cuts the stream into pieces, the client gets the file and both frames.

## Main results

* `Server.process_fetch`: what a fetch that succeeds is answered with;
* `Server.writeMessages_fetch`: the bytes that are written for a fetch;
* `Client.readFetched_append`: what a client reads from these bytes;
* `Server.transfer`: what the server wrote is what the client gets.
-/

namespace FederatedCatalog

/-! ### The side of the server -/

namespace Server

variable {s : Server} {files later : FileSystem} {text : String} {t : Resource} {path : Path}
  {content : FileContent}

/-- A fetch of a file that succeeds is answered with the description of the entry at the location of
its template and the whole file. -/
theorem process_fetch (connector : Connector)
    (hread : Call.read s.secret text = .ok (.fetch t path))
    (hsuccess : (s.process files connector text).Succeeds) (hfile : files path = .file content) :
    ∃ stored, s.ownership.get? t.location = some stored ∧
      s.process files connector text =
        { answer := .ok [.success, .frame (s.description stored content.size).render,
            .file path content.size, .resultSize 1]
          server := s } := by
  have hsize : (files path).fileSize? = some content.size := by
    rw [hfile]
    rfl
  have hreply : s.reply ⟨files, connector, text⟩ = s.process files connector text := rfl
  obtain ⟨rejection, hrejected⟩ | ⟨failure, -, hfailed⟩ | ⟨call, hcall, heffect⟩ :=
    effect_cases s ⟨files, connector, text⟩
  · exact absurd hsuccess (Reply.not_succeeds_of_rejected (congrArg Reply.answer hrejected))
  · obtain ⟨messages, hmessages⟩ := hsuccess
    rw [← hreply, hfailed] at hmessages
    cases hmessages
  · -- the text is read as this fetch only, and its effect is all that is left
    obtain rfl := Except.ok.inj (hread.symm.trans hcall)
    rw [hreply] at heffect
    generalize s.process files connector text = reply at heffect
    cases heffect with
    | fetch t path stored size hlisted hpresent =>
      obtain rfl := Option.some.inj (hsize.symm.trans hpresent)
      exact ⟨stored, hlisted, rfl⟩

theorem length_status : Status.success.render.utf8ByteSize ≤ Frame.maxLength ∧
    (Status.resultSize 1).render.utf8ByteSize ≤ Frame.maxLength := by
  decide +kernel

/-- The messages of a fetch are written as the success frame, the description, the bytes of the file
and the count. -/
theorem writeMessages_fetch (hfile : later path = .file content) {description : String}
    (hlength : description.utf8ByteSize ≤ Frame.maxLength) :
    writeMessages later {} [.success, .frame description, .file path content.size, .resultSize 1] =
      (.ok (), Frame.openSink (Frame.encode Status.success.render ++ (Frame.encode description ++
        (content.bytes ++ Frame.encode (Status.resultSize 1).render)))) := by
  obtain ⟨hsuccess, hcount⟩ := length_status
  have hwritable : ∀ message ∈ [Message.success, .frame description, .file path content.size,
      .resultSize 1], message.Writable later := by
    simp only [List.forall_mem_cons, Message.Writable]
    have hwritten : content.size.toNat ≤ content.bytes.size := Nat.le_of_eq content.toNat_size
    exact ⟨hsuccess, hlength, ⟨content, hfile, hwritten⟩, hcount, List.forall_mem_nil _⟩
  rw [Frame.openSink_empty, writeMessages_eq hwritable, ByteArray.empty_append]
  simp only [Message.stream, Message.bytes_file hfile, ByteArray.append_empty]
  rfl

/-- A connection whose first frame has a text is served with the answer to it. -/
theorem serve_of_answer (later : FileSystem) (connector : Connector) {input : Source}
    {messages : List Message} (hinput : (Frame.read input).1 = .ok (some text))
    (hanswer : (s.process files connector text).answer = .ok messages) :
    s.serve files later connector input {} =
      { result := (writeMessages later {} messages).1
        server := (s.process files connector text).server
        sink := (writeMessages later {} messages).2
        sent := (s.process files connector text).sent } := by
  have hreply : s.replyTo files connector text.toByteArray = s.process files connector text :=
    replyTo_of_text text rfl
  have hopens := Frame.readPayload_eq_ok_iff.mp (Frame.readPayload_of_read hinput)
  rw [serve_of_ok hopens (hreply.symm ▸ hanswer), hreply]

/-- A connection whose first frame has a text is served with the reply to it. -/
theorem serve_of_read (later : FileSystem) (connector : Connector) {input : Source}
    {messages : List Message} {server : Server} (hinput : (Frame.read input).1 = .ok (some text))
    (hprocess : s.process files connector text = { answer := .ok messages, server }) :
    s.serve files later connector input {} =
      { result := (writeMessages later {} messages).1
        server
        sink := (writeMessages later {} messages).2 } := by
  rw [serve_of_answer later connector hinput (congrArg Reply.answer hprocess), hprocess]

end Server

/-! ### The side of the client -/

namespace Client

/-- From a success frame, the description of a file, its bytes and a count, a client reads the
frames as they are, the resource that was described and the bytes. -/
theorem readFetched_append {reply : Source} {described : Resource} {size : UInt64}
    {bytes : ByteArray} {count : String}
    (h : reply.rest = Frame.encode Status.success.render ++ (Frame.encode described.render ++
      (bytes ++ Frame.encode count)))
    (hsize : described.size = some size) (hbytes : size.toNat = bytes.size)
    (hdescription : described.render.utf8ByteSize ≤ Frame.maxLength)
    (hcount : count.utf8ByteSize ≤ Frame.maxLength) :
    readFetched reply = .ok
      { frames := [Status.success.render, described.render, count]
        resource := some described
        bytes } := by
  have hannounced : bytes.size = described.announced := by
    rw [Resource.announced, hsize, ← hbytes]
    rfl
  -- the count is the whole row of frames behind the bytes
  have hlater := Frame.longest_encodeAll (List.forall_mem_singleton.mpr hcount)
  rw [Frame.encodeAll, Frame.encodeAll, ByteArray.append_empty] at hlater
  exact readFetched_of_readFrom (.complete Status.success.render described.render described bytes
    [count] (Frame.encode count) h Server.length_status.1 hdescription Status.isSuccess_success
    described.ofPeerFrame?_render hannounced hlater)

end Client

/-! ### Both sides -/

namespace Server

/-- A fetch of a file that succeeds brings the file to the client. Whatever is in the file, the
server writes its answer in full, and from what was written, in whatever pieces it arrives, the
client reads the success frame, the description and the count, the entry as it is described to
clients, and the bytes of the file. The description must fit a frame, and the file must still open,
with the same bytes, when it is written. -/
theorem transfer (s : Server) (files later : FileSystem) (connector : Connector) (text : String)
    (t : Resource) (path : Path) (content : FileContent)
    (hread : Call.read s.secret text = .ok (.fetch t path))
    (hsuccess : (s.process files connector text).Succeeds)
    (hfile : files path = .file content) (hlater : later path = .file content) :
    ∃ stored, s.ownership.get? t.location = some stored ∧
      let described : Resource :=
        { stored with
          owner := Resource.ownerMask
          origin := some s.origin
          size := some content.size }
      described.render.utf8ByteSize ≤ Frame.maxLength →
      ∀ input : Source, (Frame.read input).1 = .ok (some text) →
        let served := s.serve files later connector input {}
        served.result = .ok () ∧ served.server = s ∧
        ∀ (peer : Peer) (reply : Source), reply.rest = served.sink.accepted →
          Client.fetch peer text (.connected reply) = .ok
            { frames := [Status.success.render, described.render, (Status.resultSize 1).render]
              resource := some described
              bytes := content.bytes } := by
  obtain ⟨stored, hstored, hprocess⟩ := process_fetch connector hread hsuccess hfile
  refine ⟨stored, hstored, ?_⟩
  intro described hdescription input hinput served
  have hserved : served = _ := serve_of_read later connector hinput hprocess
  rw [show s.description stored content.size = described from rfl,
    writeMessages_fetch hlater hdescription] at hserved
  refine ⟨by rw [hserved], by rw [hserved], fun peer reply hreply => ?_⟩
  rw [hserved] at hreply
  -- the request came in a frame, so the client could write it
  have hrequest : Client.writeRequest text = .ok (Frame.encode text) := by
    have hwrite := Frame.write_eq .empty (Frame.length_of_read hinput)
    rw [ByteArray.empty_append] at hwrite
    rw [Client.writeRequest, Frame.openSink_empty, hwrite]
    rfl
  rw [Client.fetch, hrequest]
  exact Client.readFetched_append hreply rfl content.toNat_size hdescription length_status.2

/-- A server that lists a file. -/
def lister : Server :=
  { secret := "s"
    catalog := { entries := [{ uri := "file:///f", owner := "o", origin := some "a:1" }] }
    directory := .start ⟨"a", 1⟩ }

/-- The content of a file that looks like a frame: a length of two and two bytes. -/
def framed : FileContent := ⟨⟨#[0, 0, 0, 2, 0x7b, 0x7d]⟩, by decide⟩

/-- A request to fetch that file. -/
def fetchRequest : String := (Request.fetch { uri := "file:///f" }).render

/-- What the server answers to it. -/
def fetchServed : Served :=
  lister.serve (fun _ => .file framed) (fun _ => .file framed) (fun _ _ => .crashed)
    (.ofBytes (Frame.encode fetchRequest)) {}

/-- A file that looks like a frame is fetched as it is. -/
theorem transfer_framed :
    let described : Resource :=
      { uri := "file:///f", owner := "*", origin := some "a:1", size := some 6 }
    Client.fetch ⟨"a", 1⟩ fetchRequest (.connected (.ofBytes fetchServed.sink.accepted)) = .ok
      { frames := [Status.success.render, described.render, (Status.resultSize 1).render]
        resource := some described
        bytes := framed.bytes } := by
  have hread : Call.read lister.secret fetchRequest =
      .ok (.fetch { uri := "file:///f" } [47, 102]) := by
    decide +kernel
  have hrequest : fetchRequest.utf8ByteSize ≤ Frame.maxLength := by decide +kernel
  have hdescription : (lister.description { uri := "file:///f", owner := "o", origin := some "a:1" }
      framed.size).render.utf8ByteSize ≤ Frame.maxLength := by
    decide +kernel
  have hsuccess : (lister.process (fun _ => .file framed) (fun _ _ => .crashed)
      fetchRequest).Succeeds := by
    rw [process_eq_conclude, begin?_of_read _ hread]
    exact ⟨_, rfl⟩
  have hinput : (Frame.read (.ofBytes (Frame.encode fetchRequest))).1 =
      .ok (some fetchRequest) := by
    obtain ⟨source, hsource, -⟩ := Frame.read_encode
      ((Source.rest_ofBytes _).trans ByteArray.append_empty.symm) hrequest
    rw [hsource]
  obtain ⟨stored, hstored, htransfer⟩ :=
    transfer lister _ (fun _ => .file framed) _ fetchRequest _ _ framed hread hsuccess rfl rfl
  obtain rfl := Option.some.inj (Eq.trans rfl hstored)
  obtain ⟨-, -, hfetch⟩ := htransfer hdescription _ hinput
  exact hfetch ⟨"a", 1⟩ _ (Source.rest_ofBytes fetchServed.sink.accepted)

end Server

end FederatedCatalog
