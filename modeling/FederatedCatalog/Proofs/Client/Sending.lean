import FederatedCatalog.Proofs.Server.Transfer

/-!
# What comes of a request

Whatever bytes a server sends before it closes the connection, the client gets the longest row of
frames in them. It gets a failure only if there are no frames, but bytes enough for the length of
one. A server answers every request with frames alone, unless it is a fetch, and then the client
gets these frames.

## Main results

* `Server.exists_frames_of_reply`: only the answer to a fetch holds more than frames;
* `Client.send_longest`: what a client gets, from any bytes and from those that a server writes.
-/

namespace FederatedCatalog

/-- The bytes of frames are those of their texts. -/
theorem Message.stream_frames (later : FileSystem) (texts : List String) :
    stream later (texts.map frame) = Frame.encodeAll texts := by
  induction texts with
  | nil => rfl
  | cons text texts ih => rw [List.map_cons, stream, ih, Frame.encodeAll, bytes]

namespace Server

/-- Whatever is not read as a fetch is answered with frames alone, or not at all. -/
theorem exists_frames_of_reply (s : Server) (turn : Turn) {messages : List Message}
    (hother : ∀ t path, Call.read s.secret turn.text ≠ .ok (.fetch t path))
    (hanswer : (s.reply turn).answer = .ok messages) :
    ∃ texts : List String, messages = texts.map .frame := by
  obtain ⟨rejection, hreply⟩ | ⟨failure, -, hreply⟩ | ⟨call, hread, heffect⟩ := s.effect_cases turn
  · rw [hreply] at hanswer
    obtain rfl := Except.ok.inj hanswer
    exact ⟨[(Status.error rejection).render], rfl⟩
  · rw [hreply] at hanswer
    cases hanswer
  · have hquery (found : List Resource) : ∃ texts : List String,
        queryAnswer found = texts.map .frame := by
      refine ⟨Status.success.render :: found.map Resource.render ++
        [(Status.resultSize found.length).render], ?_⟩
      simp [queryAnswer, Message.success, Message.resultSize]
    generalize s.reply turn = reply at heffect hanswer
    -- commands that write are only acknowledged, and what is found is listed between two frames
    cases heffect with
    | publish | remove | share | exchange =>
      obtain rfl := Except.ok.inj hanswer
      exact ⟨[Status.success.render], rfl⟩
    | query | relay =>
      obtain rfl := Except.ok.inj hanswer
      exact hquery _
    | fetch t path => exact absurd hread (hother t path)

end Server

namespace Client

/-- From any bytes of a connection that is closed behind them, a request that fits a frame brings
back the longest row of frames with which they begin, however many there are and whatever comes
behind them, and reading comes to an end by itself. It brings back a failure exactly if there is no
frame but at least the four bytes of a length. From what a server writes to such a request, when it
is not read as a fetch and the frames of the answer fit, it brings back just these frames; when the
server fails to process it, it brings back none. -/
theorem send_longest (peer : Peer) (request : String) (reply : Source)
    (hrequest : request.utf8ByteSize ≤ Frame.maxLength) (hclosed : reply.ending = .closed) :
    let result := send peer request (.connected reply)
    (∃ texts, Frame.Longest texts reply.rest ∧ Collects [] reply result ∧
      (∀ frames, result = .ok frames → frames = texts) ∧
      ((∃ failure, result = .error failure) ↔ texts = [] ∧ 4 ≤ reply.rest.size)) ∧
    ∀ (s : Server) (files later : FileSystem) (connector : Connector) (input : Source),
      (Frame.read input).1 = .ok (some request) →
      (∀ t path, Call.read s.secret request ≠ .ok (.fetch t path)) →
      reply.rest = (s.serve files later connector input {}).sink.accepted →
      (∀ messages, (s.process files connector request).answer = .ok messages →
        (∀ text, .frame text ∈ messages → text.utf8ByteSize ≤ Frame.maxLength) →
        ∃ frames : List String, messages = frames.map .frame ∧ result = .ok frames) ∧
      ∀ failure, (s.process files connector request).answer = .error failure → result = .ok [] := by
  intro result
  have hresult : result = collectAll [] reply := send_connected peer hrequest reply
  constructor
  · obtain ⟨texts, hlongest⟩ := Frame.exists_longest reply.rest
    refine ⟨texts, hlongest, collects_iff.mpr hresult.symm, ?_⟩
    obtain ⟨hok, hshort⟩ | ⟨rfl, hsize, failure, hfailed⟩ := collectAll_cases hlongest hclosed
    · rw [hresult, hok]
      refine ⟨?_, nofun, fun ⟨hnone, hsize⟩ => absurd hsize (Nat.not_le_of_lt (hshort hnone))⟩
      rintro _ ⟨⟩
      rfl
    · rw [hresult, hfailed]
      exact ⟨nofun, fun _ => ⟨rfl, hsize⟩, fun _ => ⟨failure, rfl⟩⟩
  · intro s files later connector input hinput hother hreply
    have hopens := Frame.readPayload_eq_ok_iff.mp (Frame.readPayload_of_read hinput)
    constructor
    · intro messages hanswer hfits
      obtain ⟨frames, rfl⟩ :=
        s.exists_frames_of_reply ⟨files, connector, request⟩ hother hanswer
      have hlengths : ∀ text ∈ frames, text.utf8ByteSize ≤ Frame.maxLength :=
        fun text htext => hfits text (List.mem_map_of_mem htext)
      have hwritable : ∀ message ∈ frames.map Message.frame, message.Writable later :=
        List.forall_mem_map.mpr hlengths
      -- the bytes on the connection are the frames of the answer and nothing else
      rw [Server.serve_of_answer later connector hinput hanswer, Frame.openSink_empty,
        Server.writeMessages_eq hwritable, Message.stream_frames] at hreply
      have hrest : reply.rest = Frame.encodeAll frames := hreply.trans ByteArray.empty_append
      exact ⟨frames, rfl, hresult.trans (collectAll_encodeAll hlengths hrest hclosed)⟩
    · intro failure hanswer
      have hfailed : (s.replyTo files connector request.toByteArray).answer = .error failure := by
        rw [Server.replyTo_of_text request rfl, hanswer]
      rw [Server.serve_of_error hopens hfailed] at hreply
      -- the connection is closed without a byte
      have hnone : collectAll [] reply = .ok [] := collectAll_encodeAll nofun hreply hclosed
      exact hresult.trans hnone

/-- A frame whose bytes are cut off. -/
def brokenFrame : ByteArray := (Frame.encode "{}").extract 0 5

theorem longest_brokenFrame : Frame.Longest [] (Source.ofBytes brokenFrame).rest := by
  have hread : (Frame.read (.ofBytes brokenFrame)).1 = .error (.io .unexpectedEof) :=
    Frame.read_cut (by decide) (by decide) (Source.rest_ofBytes brokenFrame) rfl
  exact Frame.longest_nil_of_read (by simp [hread])

/-- A broken frame is a failure when it comes first, and no matter behind a frame. A server answers
an exchange with one frame, and that is what the client gets. -/
theorem send_longest_broken :
    let ask (bytes : ByteArray) := send ⟨"a", 1⟩ "{}" (.connected (.ofBytes bytes))
    (∃ failure, ask brokenFrame = .error failure) ∧
      ask (Frame.encode "{}" ++ brokenFrame) = .ok ["{}"] ∧
      let s := Server.start "s" ⟨"a", 1⟩
      let request := (Request.exchange [⟨"b", 2⟩]).render
      let served := s.serve (fun _ => .directory) (fun _ => .directory) (fun _ _ => .crashed)
        (.ofBytes (Frame.encode request)) {}
      send ⟨"a", 1⟩ request (.connected (.ofBytes served.sink.accepted)) =
        .ok [Status.success.render] := by
  intro ask
  have hempty : "{}".utf8ByteSize ≤ Frame.maxLength := by decide
  refine ⟨?_, ?_, ?_⟩
  · obtain ⟨⟨texts, hlongest, -, -, hiff⟩, -⟩ :=
      send_longest ⟨"a", 1⟩ "{}" (.ofBytes brokenFrame) hempty rfl
    refine hiff.mpr ⟨hlongest.unique longest_brokenFrame, ?_⟩
    rw [Source.rest_ofBytes]
    decide
  · obtain ⟨⟨texts, hlongest, -, hok, hiff⟩, -⟩ :=
      send_longest ⟨"a", 1⟩ "{}" (.ofBytes (Frame.encode "{}" ++ brokenFrame)) hempty rfl
    have hcons := longest_brokenFrame.cons hempty
    rw [Source.rest_ofBytes] at hlongest hcons
    obtain rfl := hlongest.unique hcons
    cases hresult : ask (Frame.encode "{}" ++ brokenFrame) with
    | error failure =>
      obtain ⟨hnone, -⟩ := hiff.mp ⟨failure, hresult⟩
      cases hnone
    | ok frames => rw [hok frames hresult]
  · intro s request served
    have hread : Call.read s.secret request = .ok (.exchange [⟨"b", 2⟩]) := by decide +kernel
    have hrequest : request.utf8ByteSize ≤ Frame.maxLength := by decide +kernel
    have hanswer : (s.process (fun _ => .directory) (fun _ _ => .crashed) request).answer =
        .ok [.success] := by
      rw [Server.process, Server.begin?, hread]
      rfl
    have hinput := Frame.read_ofBytes_encode hrequest
    have hfits : ∀ text, .frame text ∈ [Message.success] →
        text.utf8ByteSize ≤ Frame.maxLength := by
      intro text htext
      obtain rfl := Message.frame.inj (List.mem_singleton.mp htext)
      exact Server.length_status.1
    obtain ⟨-, hserve⟩ :=
      send_longest ⟨"a", 1⟩ request (.ofBytes served.sink.accepted) hrequest rfl
    obtain ⟨hframes, -⟩ := hserve s (fun _ => .directory) (fun _ => .directory)
      (fun _ _ => .crashed) _ hinput (by simp [hread]) (Source.rest_ofBytes _)
    obtain ⟨frames, hmessages, hsend⟩ := hframes _ hanswer hfits
    obtain rfl : frames = [Status.success.render] := by
      have htexts := congrArg (List.filterMap Message.text?) hmessages
      simpa [Message.text?, Message.success, List.filterMap_map, Function.comp_def]
        using htexts.symm
    exact hsend

end Client

end FederatedCatalog
