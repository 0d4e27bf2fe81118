import FederatedCatalog.Proofs.Frame.Stream
import FederatedCatalog.Proofs.Server.Requests
import FederatedCatalog.Server.Connection

/-!
# One request for each connection

A server looks at the first frame of a connection and at nothing behind it. Without a whole frame of
the allowed length it does nothing. Otherwise its state changes as the processing of the payload
changes it, and the messages of the answer are written in their order, up to the first that cannot
be written in full.

## Main definitions

* `Message.bytes` and `Message.stream`: what the messages of an answer look like when written;
* `Message.Deliverable`: messages that can be written in full where there is room;
* `Server.Delivered`: what writing messages may come to;
* `Frame.Opens`: bytes that begin with the frame of a payload.

## Main results

* `Server.writeMessage_cases` and `Server.delivered_writeMessages`: messages are delivered, one and
  in a row;
* `Frame.readPayload_eq_ok_iff`: a payload is read exactly when the bytes open with its frame;
* `Server.serve_first_frame`: what a server does with whatever bytes arrive.
-/

namespace FederatedCatalog

/-! ### The bytes of messages -/

/-- Error frames are short. -/
theorem Status.utf8ByteSize_error (rejection : Rejection) :
    (error rejection).render.utf8ByteSize ≤ Frame.maxLength := by
  cases rejection <;> decide +kernel

namespace Message

/-- A frame fits, and a file is there with at least the bytes that were announced. -/
def Writable (later : FileSystem) : Message → Prop
  | frame text => text.utf8ByteSize ≤ Frame.maxLength
  | file path size => ∃ content, later path = .file content ∧ size.toNat ≤ content.bytes.size

/-- The bytes of a message: a text in its frame, or the announced bytes of a file. -/
def bytes (later : FileSystem) : Message → ByteArray
  | frame text => Frame.encode text
  | file path size =>
    match later path with
    | .file content => content.bytes.extract 0 size.toNat
    | _ => .empty

/-- A file that is announced with its own size is written as a whole. -/
theorem bytes_file {later : FileSystem} {path : Path} {content : FileContent}
    (h : later path = .file content) : (file path content.size).bytes later = content.bytes := by
  rw [bytes, h]
  exact (congrArg _ content.toNat_size).trans content.bytes.extract_zero_size

/-- The bytes of messages one after the other. -/
def stream (later : FileSystem) : List Message → ByteArray
  | [] => .empty
  | message :: messages => message.bytes later ++ stream later messages

/-- All bytes of a message that were announced are there: a frame fits, and a file is not shorter
than announced. A directory passes for a file without bytes. -/
def Deliverable (later : FileSystem) : Message → Prop
  | frame text => text.utf8ByteSize ≤ Frame.maxLength
  | file path size =>
    match later path with
    | .absent _ => False
    | .directory => size.toNat = 0
    | .file content => size.toNat ≤ content.bytes.size

theorem Writable.deliverable {later : FileSystem} {message : Message} (h : message.Writable later) :
    message.Deliverable later := by
  cases message with
  | frame text => exact h
  | file path size =>
    obtain ⟨content, hfile, hsize⟩ := h
    rw [Deliverable, hfile]
    exact hsize

/-- The report of a rejection fits a frame. -/
theorem deliverable_rejected (later : FileSystem) (rejection : Rejection) :
    (rejected rejection).Deliverable later :=
  Status.utf8ByteSize_error rejection

theorem stream_append (later : FileSystem) (messages behind : List Message) :
    stream later (messages ++ behind) = stream later messages ++ stream later behind := by
  induction messages with
  | nil => rw [List.nil_append, stream, ByteArray.empty_append]
  | cons message messages ih =>
    rw [List.cons_append, stream, stream, ih, ByteArray.append_assoc]

end Message

/-! ### Writing an answer -/

namespace Server

variable {later : FileSystem} {sink : Sink} {message : Message} {messages : List Message}

/-- A message is written in full when its bytes are there and there is room for them. -/
theorem writeMessage_of_deliverable (h : message.Deliverable later)
    (hfits : sink.Fits (message.bytes later).size) :
    writeMessage later sink message = (.ok (), sink.after (message.bytes later)) := by
  cases message with
  | frame text =>
    have hlength : ¬ Frame.maxLength < text.utf8ByteSize := Nat.not_lt.mpr h
    have hwrite : sink.write (Frame.encode text) = (true, sink.after (Frame.encode text)) :=
      Sink.write_of_fits hfits
    rw [writeMessage, Frame.write, if_neg hlength, hwrite]
    rfl
  | file path size =>
    rw [writeMessage]
    rw [Message.bytes] at hfits ⊢
    rw [Message.Deliverable] at h
    rcases hfile : later path with cause | - | content <;> simp only [hfile] at h hfits ⊢
    · -- a directory passes for no bytes
      simp [Frame.writeFile, hfile, h, Sink.after_empty]
    · rw [Frame.writeFile_of_file hfile, Sink.write_of_fits hfits]
      simp [Nat.not_lt.mpr h]

/-- Otherwise writing fails, after a front of the message at most. -/
theorem writeMessage_of_not
    (h : ¬ (message.Deliverable later ∧ sink.Fits (message.bytes later).size)) :
    ∃ failure after n, n ≤ (message.bytes later).size ∧
      writeMessage later sink message = (.error failure, after) ∧
      after.accepted = sink.accepted ++ (message.bytes later).extract 0 n := by
  have hnothing (bytes : ByteArray) : sink.accepted = sink.accepted ++ bytes.extract 0 0 := by
    rw [ByteArray.extract_same, ByteArray.append_empty]
  cases message with
  | frame text =>
    rw [Message.bytes] at h ⊢
    by_cases hlength : Frame.maxLength < text.utf8ByteSize
    · refine ⟨.frameTooLarge text.utf8ByteSize, sink, 0, Nat.zero_le _, ?_, hnothing _⟩
      rw [writeMessage, Frame.write, if_pos hlength]
    · have hfits : ¬ sink.Fits (Frame.encode text).size :=
        fun hfits => h ⟨Nat.le_of_not_lt hlength, hfits⟩
      obtain ⟨n, hn, haccepted⟩ := Sink.exists_fill hfits
      refine ⟨.timedOut, _, n, hn, ?_, haccepted⟩
      rw [writeMessage, Frame.write, if_neg hlength, Sink.write_of_not_fits hfits]
      rfl
  | file path size =>
    rw [writeMessage]
    rw [Message.bytes] at h ⊢
    rw [Message.Deliverable] at h
    rcases hfile : later path with cause | - | content <;> simp only [hfile] at h ⊢
    · refine ⟨.io cause, sink, 0, Nat.zero_le _, ?_, hnothing _⟩
      simp [Frame.writeFile, hfile]
    · have hsize : size.toNat ≠ 0 := fun hsize => h ⟨hsize, fun room _ => Nat.zero_le room⟩
      refine ⟨.io .isADirectory, sink, 0, Nat.zero_le _, ?_, hnothing _⟩
      simp [Frame.writeFile, hfile, hsize]
    · rw [Frame.writeFile_of_file hfile]
      by_cases hfits : sink.Fits (content.bytes.extract 0 size.toNat).size
      · -- there is room for all that the file still has, but it is shorter than announced
        have hshort : content.bytes.size < size.toNat :=
          Nat.lt_of_not_le fun hsize => h ⟨hsize, hfits⟩
        refine ⟨.fileShrank path.display content.bytes.size size.toNat,
          sink.after (content.bytes.extract 0 size.toNat), _, Nat.le_refl _, ?_, ?_⟩
        · rw [Sink.write_of_fits hfits, if_pos rfl, if_pos hshort]
        · rw [ByteArray.extract_zero_size]
          rfl
      · obtain ⟨n, hn, haccepted⟩ := Sink.exists_fill hfits
        refine ⟨.timedOut, _, n, hn, ?_, haccepted⟩
        rw [Sink.write_of_not_fits hfits, if_neg Bool.false_ne_true]

/-- What writing messages to a connection may come to. Either all of them are written, or writing
breaks off in the first that cannot be written in full: because its bytes are not there, or because
there is no room for them. -/
inductive Delivered (later : FileSystem) (before : Sink) (messages : List Message) :
    Except Failure Unit → Sink → Prop where
  | whole {after : Sink} (hdeliverable : ∀ message ∈ messages, message.Deliverable later)
      (hfits : before.Fits (Message.stream later messages).size)
      (haccepted : after.accepted = before.accepted ++ Message.stream later messages) :
      Delivered later before messages (.ok ()) after
  | brokenOff {failure : Failure} {after : Sink} (written : List Message) (message : Message)
      (behind : List Message) (n : Nat) (hmessages : messages = written ++ message :: behind)
      (hdeliverable : ∀ earlier ∈ written, earlier.Deliverable later)
      (hmessage : ¬ (message.Deliverable later ∧
        before.Fits (Message.stream later (written ++ [message])).size))
      (hfrom : (Message.stream later written).size ≤ n)
      (hto : n ≤ (Message.stream later (written ++ [message])).size)
      (haccepted : after.accepted =
        before.accepted ++ (Message.stream later messages).extract 0 n) :
      Delivered later before messages (.error failure) after

/-- Where all bytes are there and fit, delivery does not break off. -/
theorem Delivered.accepted_eq {result : Except Failure Unit} {after : Sink}
    (h : Delivered later sink messages result after)
    (hdeliverable : ∀ message ∈ messages, message.Deliverable later)
    (hfits : sink.Fits (Message.stream later messages).size) :
    result = .ok () ∧ after.accepted = sink.accepted ++ Message.stream later messages := by
  cases h with
  | whole _ _ haccepted => exact ⟨rfl, haccepted⟩
  | brokenOff written message behind n hmessages _ hmessage =>
    have hsize : (Message.stream later messages).size =
        (Message.stream later (written ++ [message])).size +
          (Message.stream later behind).size := by
      rw [hmessages, List.append_cons, Message.stream_append, ByteArray.size_append]
    refine absurd ⟨hdeliverable message ?_, hfits.mono ?_⟩ hmessage
    · rw [hmessages]
      exact List.mem_append_right _ List.mem_cons_self
    · rw [hsize]
      exact Nat.le_add_right _ _

/-- Messages whose bytes are there are all written when there is room for them. -/
theorem writeMessages_of_deliverable (h : ∀ message ∈ messages, message.Deliverable later)
    (hfits : sink.Fits (Message.stream later messages).size) :
    writeMessages later sink messages = (.ok (), sink.after (Message.stream later messages)) := by
  induction messages generalizing sink with
  | nil => rw [writeMessages, Message.stream, Sink.after_empty]
  | cons message messages ih =>
    obtain ⟨hmessage, hmessages⟩ := List.forall_mem_cons.mp h
    rw [Message.stream, ByteArray.size_append] at hfits
    have hfront := hfits.mono (Nat.le_add_right _ _)
    rw [writeMessages, writeMessage_of_deliverable hmessage hfront]
    simp only
    rw [ih hmessages ((Sink.fits_after hfront).mpr hfits), Message.stream, Sink.after_append]

/-- Messages that can be written are all written to a connection without bounds. -/
theorem writeMessages_eq (h : ∀ message ∈ messages, message.Writable later)
    (accepted : ByteArray) :
    writeMessages later (Frame.openSink accepted) messages =
      (.ok (), Frame.openSink (accepted ++ Message.stream later messages)) :=
  writeMessages_of_deliverable (fun message hmessage => (h message hmessage).deliverable) nofun

/-- The messages of an answer are delivered in their order, up to the first that cannot be written
in full. -/
theorem delivered_writeMessages (later : FileSystem) (sink : Sink) (messages : List Message) :
    Delivered later sink messages (writeMessages later sink messages).1
      (writeMessages later sink messages).2 := by
  induction messages generalizing sink with
  | nil =>
    refine .whole nofun (fun room _ => Nat.zero_le room) ?_
    rw [writeMessages, Message.stream, ByteArray.append_empty]
  | cons message messages ih =>
    by_cases hmessage : message.Deliverable later ∧ sink.Fits (message.bytes later).size
    · -- this message is written, and those behind it are delivered to what is left of the room
      obtain ⟨hhere, hfits⟩ := hmessage
      have hbehind := ih (sink.after (message.bytes later))
      rw [writeMessages, writeMessage_of_deliverable hhere hfits]
      dsimp only
      generalize (writeMessages later (sink.after (message.bytes later)) messages).1 = result,
        (writeMessages later (sink.after (message.bytes later)) messages).2 = after at hbehind ⊢
      cases hbehind with
      | whole hdeliverable hroom haccepted =>
        refine .whole (List.forall_mem_cons.mpr ⟨hhere, hdeliverable⟩) ?_ ?_
        · rwa [Message.stream, ByteArray.size_append, ← Sink.fits_after hfits]
        · rw [haccepted, Message.stream, ← ByteArray.append_assoc]
          rfl
      | brokenOff written broken behind n hmessages hdeliverable hbroken hfrom hto haccepted =>
        refine .brokenOff (message :: written) broken behind ((message.bytes later).size + n)
          (by rw [hmessages]; rfl) (List.forall_mem_cons.mpr ⟨hhere, hdeliverable⟩) ?_ ?_ ?_ ?_
        · rwa [List.cons_append, Message.stream, ByteArray.size_append, ← Sink.fits_after hfits]
        · rw [Message.stream, ByteArray.size_append]
          omega
        · rw [List.cons_append, Message.stream, ByteArray.size_append]
          omega
        · rw [haccepted, Message.stream, extract_append_of_le (Nat.le_add_right _ _),
            Nat.add_sub_cancel_left, ← ByteArray.append_assoc]
          rfl
    · -- this message breaks off, and those behind it are not looked at
      obtain ⟨failure, after, n, hn, hwrite, haccepted⟩ := writeMessage_of_not hmessage
      have hbytes : (Message.stream later ([] ++ [message])).size = (message.bytes later).size := by
        rw [List.nil_append, Message.stream, Message.stream, ByteArray.append_empty]
      rw [writeMessages, hwrite]
      refine .brokenOff [] message messages n rfl nofun ?_ (Nat.zero_le n) ?_ ?_
      · rwa [hbytes]
      · rwa [hbytes]
      · rw [haccepted, Message.stream, extract_append_of_ge hn]

end Server

/-! ### The first frame -/

namespace Frame

/-- The bytes begin with the frame of a payload that is not too long. -/
def Opens (payload bytes : ByteArray) : Prop :=
  payload.size ≤ maxLength ∧ ∃ behind, bytes = ofPayload payload ++ behind

/-- A payload is read exactly when its frame comes first. -/
theorem readPayload_eq_ok_iff {source : Source} {payload : ByteArray} :
    (readPayload source).1 = .ok (some payload) ↔ Opens payload source.rest := by
  constructor
  · exact exists_append_of_readPayload
  · rintro ⟨hlength, behind, hrest⟩
    obtain ⟨t, hread, -⟩ := readPayload_append hrest hlength
    rw [hread]

end Frame

namespace Server

variable {s : Server} {files later : FileSystem} {connector : Connector} {source : Source}
  {sink : Sink} {payload : ByteArray}

theorem replyTo_of_text (text : String) (h : text.toByteArray = payload) :
    s.replyTo files connector payload = s.process files connector text := by
  rw [replyTo, ← h, Text.Utf8.decode_toByteArray]

/-- A payload that is no text is turned down as malformed. -/
theorem replyTo_of_not_text (h : ∀ text : String, text.toByteArray ≠ payload) :
    s.replyTo files connector payload =
      { answer := .ok [.rejected .malformedRequest], server := s } := by
  rw [replyTo]
  cases hdecode : Text.Utf8.decode payload with
  | error fault => rfl
  | ok text =>
    have htext : Frame.textOf payload = .ok text := by
      rw [Frame.textOf, hdecode]
      rfl
    exact absurd (Frame.toByteArray_of_textOf htext) (h text)

/-- A connection whose first frame is not answered is left without a byte being written. -/
theorem serve_of_error {failure : Failure} (hopens : Frame.Opens payload source.rest)
    (hanswer : (s.replyTo files connector payload).answer = .error failure) :
    s.serve files later connector source sink =
      { result := .error failure
        server := (s.replyTo files connector payload).server
        sink
        sent := (s.replyTo files connector payload).sent } := by
  rw [serve, Frame.readPayload_eq_ok_iff.mpr hopens]
  simp only [hanswer]

/-- A connection whose first frame is answered is served by writing the answer. -/
theorem serve_of_ok {messages : List Message} (hopens : Frame.Opens payload source.rest)
    (hanswer : (s.replyTo files connector payload).answer = .ok messages) :
    s.serve files later connector source sink =
      { result := (writeMessages later sink messages).1
        server := (s.replyTo files connector payload).server
        sink := (writeMessages later sink messages).2
        sent := (s.replyTo files connector payload).sent } := by
  rw [serve, Frame.readPayload_eq_ok_iff.mpr hopens]
  simp only [hanswer]

/-- Bytes that open with no frame end a connection, and nothing comes of it. -/
theorem serve_of_not_opens (hnone : ∀ payload, ¬ Frame.Opens payload source.rest) :
    ∃ result, s.serve files later connector source sink = { result, server := s, sink } := by
  rw [serve]
  rcases hread : (Frame.readPayload source).1 with failure | _ | payload
  · exact ⟨_, rfl⟩
  · exact ⟨_, rfl⟩
  · -- a payload that is read would open the bytes
    exact absurd (Frame.readPayload_eq_ok_iff.mp hread) (hnone payload)

/-- Connections that open with the same frame are served alike. -/
theorem serve_congr {other : Source} (hopens : Frame.Opens payload source.rest)
    (hother : Frame.Opens payload other.rest) :
    s.serve files later connector other sink = s.serve files later connector source sink := by
  rw [serve, serve, Frame.readPayload_eq_ok_iff.mpr hother,
    Frame.readPayload_eq_ok_iff.mpr hopens]

/-- Whatever bytes arrive at a connection, only the first frame counts. Without a whole frame of the
allowed length, nothing changes and nothing is written. A first payload that is no text changes
nothing either, and is answered with the one rejection of malformed requests. The text of a first
payload changes the server as processing it does; the messages of the answer are delivered, and
nothing is written when there is none. Another connection with the same first frame is served alike,
whatever comes behind it, in whatever pieces it arrives and however it ends. -/
theorem serve_first_frame (s : Server) (files later : FileSystem) (connector : Connector)
    (source : Source) (sink : Sink) :
    let served := s.serve files later connector source sink
    ((∀ payload, ¬ Frame.Opens payload source.rest) →
      served.server = s ∧ served.sent = [] ∧ served.sink = sink) ∧
    ∀ payload, Frame.Opens payload source.rest →
      ((∀ text : String, text.toByteArray ≠ payload) →
        let refusal := Frame.encode (Status.error .malformedRequest).render
        served.server = s ∧ served.sent = [] ∧
        Delivered later sink [.rejected .malformedRequest] served.result served.sink ∧
        (sink.Fits refusal.size → served.sink.accepted = sink.accepted ++ refusal)) ∧
      (∀ text : String, text.toByteArray = payload →
        let reply := s.process files connector text
        served.server = reply.server ∧ served.sent = reply.sent ∧
        (∀ failure, reply.answer = .error failure →
          served.result = .error failure ∧ served.sink = sink) ∧
        ∀ messages, reply.answer = .ok messages →
          Delivered later sink messages served.result served.sink) ∧
      ∀ (other : Source) (behind : ByteArray), other.rest = Frame.ofPayload payload ++ behind →
        s.serve files later connector other sink = served := by
  intro served
  refine ⟨fun hnone => ?_, fun payload hopens => ⟨fun hnot => ?_, fun text htext => ?_, ?_⟩⟩
  · obtain ⟨result, hserved⟩ : ∃ result, served = { result, server := s, sink } :=
      serve_of_not_opens hnone
    rw [hserved]
    exact ⟨rfl, rfl, rfl⟩
  · have hreply : s.replyTo files connector payload =
        { answer := .ok [.rejected .malformedRequest], server := s } := replyTo_of_not_text hnot
    have hserved : served = _ := serve_of_ok hopens (congrArg Reply.answer hreply)
    rw [hreply] at hserved
    have hdelivered := delivered_writeMessages later sink [.rejected .malformedRequest]
    rw [hserved]
    refine ⟨rfl, rfl, hdelivered, fun hfits => ?_⟩
    -- an error frame is short, so only a lack of room could break it off
    have hstream : Message.stream later [.rejected .malformedRequest] =
        Frame.encode (Status.error .malformedRequest).render := ByteArray.append_empty
    rw [← hstream] at hfits ⊢
    refine (hdelivered.accepted_eq ?_ hfits).2
    exact List.forall_mem_singleton.mpr (Message.deliverable_rejected later .malformedRequest)
  · intro reply
    have hreply : s.replyTo files connector payload = reply := replyTo_of_text text htext
    cases hanswer : reply.answer with
    | error failure =>
      have hserved : served = _ := serve_of_error hopens (hreply.symm ▸ hanswer)
      rw [hserved, hreply]
      refine ⟨rfl, rfl, ?_, nofun⟩
      rintro _ ⟨⟩
      exact ⟨rfl, rfl⟩
    | ok messages =>
      have hserved : served = _ := serve_of_ok hopens (hreply.symm ▸ hanswer)
      rw [hserved, hreply]
      refine ⟨rfl, rfl, nofun, ?_⟩
      rintro _ ⟨⟩
      exact delivered_writeMessages later sink messages
  · intro other behind hbehind
    exact serve_congr hopens ⟨hopens.1, behind, hbehind⟩

/-- Of two requests on one connection, the first is processed and answered, and the second one is
not looked at. -/
theorem serve_first_frame_pipelined :
    let s := Server.start "s" ⟨"a", 1⟩
    let first := (Request.exchange [⟨"b", 2⟩]).render
    let second := (Request.exchange [⟨"c", 3⟩]).render
    let served := s.serve (fun _ => .directory) (fun _ => .directory) (fun _ _ => .crashed)
      (.ofBytes (Frame.encode first ++ Frame.encode second)) {}
    served.server.directory.others = [⟨"b", 2⟩] ∧
      served.sink.accepted = Frame.encode Status.success.render := by
  intro s first second served
  have hprocess : s.process (fun _ => .directory) (fun _ _ => .crashed) first =
      { answer := .ok [.success], server := { s with directory := s.directory.add ⟨"b", 2⟩ } } := by
    have hread : Call.read s.secret first = .ok (.exchange [⟨"b", 2⟩]) := by decide +kernel
    rw [process, begin?, hread]
    rfl
  have hrest : (Source.ofBytes (Frame.encode first ++ Frame.encode second)).rest =
      Frame.ofPayload first.toByteArray ++ Frame.encode second := Source.rest_ofBytes _
  have hopens : Frame.Opens first.toByteArray
      (Source.ofBytes (Frame.encode first ++ Frame.encode second)).rest :=
    ⟨by decide +kernel, Frame.encode second, hrest⟩
  obtain ⟨-, hserve⟩ := serve_first_frame s (fun _ => .directory) (fun _ => .directory)
    (fun _ _ => .crashed) (.ofBytes (Frame.encode first ++ Frame.encode second)) {}
  obtain ⟨-, htext, -⟩ := hserve first.toByteArray hopens
  obtain ⟨hserver, -, -, hanswer⟩ := htext first rfl
  rw [hprocess] at hserver hanswer
  have hdeliverable : ∀ message ∈ [Message.success], message.Deliverable fun _ => .directory := by
    rw [List.forall_mem_singleton]
    show Status.success.render.utf8ByteSize ≤ Frame.maxLength
    decide +kernel
  obtain ⟨-, haccepted⟩ := (hanswer [.success] rfl).accepted_eq hdeliverable nofun
  refine ⟨?_, ?_⟩
  · rw [show served.server = _ from hserver]
    decide +kernel
  · rw [show served.sink.accepted = _ from haccepted]
    exact ByteArray.empty_append.trans ByteArray.append_empty

end Server

end FederatedCatalog
