import FederatedCatalog.Frame.Stream
import FederatedCatalog.Server.Processor

/-!
# Serving a connection

A connection carries one request. The server reads one frame, processes it and writes the messages
of the answer one after the other; whatever follows the first frame is not looked at. Writing stops
at the first message that cannot be written in full.
-/

namespace FederatedCatalog

/-- What came of a connection. -/
structure Served where
  /-- Whether the connection was served to its end. -/
  result : Except Failure Unit
  /-- The server afterwards. -/
  server : Server
  /-- The writing end, with what was written. -/
  sink : Sink
  /-- What was sent to other servers meanwhile. -/
  sent : List Dispatch := []

namespace Server

/-- Write one message, taking files from the file system. -/
def writeMessage (fs : FileSystem) (sink : Sink) : Message → Except Failure Unit × Sink
  | .frame text => Frame.write sink text
  | .file path size =>
    match Frame.writeFile fs sink path size.toNat with
    | (.ok _, sink) => (.ok (), sink)
    | (.error failure, sink) => (.error failure, sink)

/-- Write messages up to the first that cannot be written. -/
def writeMessages (fs : FileSystem) (sink : Sink) : List Message → Except Failure Unit × Sink
  | [] => (.ok (), sink)
  | message :: messages =>
    match writeMessage fs sink message with
    | (.ok (), sink) => writeMessages fs sink messages
    | (.error failure, sink) => (.error failure, sink)

/-- The reply to the payload of a frame. A payload that is no text is turned down as malformed. -/
def replyTo (s : Server) (fs : FileSystem) (connector : Connector) (payload : ByteArray) : Reply :=
  match Text.Utf8.decode payload with
  | .ok text => s.process fs connector text
  | .error _ => { answer := .ok [.rejected .malformedRequest], server := s }

/-- Serve a connection. The request is processed on one file system, as it is seen then, and the
answer is written from a later one, as far as its files can be opened. -/
def serve (s : Server) (fs later : FileSystem) (connector : Connector) (source : Source)
    (sink : Sink) : Served :=
  match (Frame.readPayload source).1 with
  | .error failure => { result := .error failure, server := s, sink }
  | .ok none => { result := .ok (), server := s, sink }
  | .ok (some payload) =>
    let reply := s.replyTo fs connector payload
    match reply.answer with
    | .error failure =>
      { result := .error failure, server := reply.server, sink, sent := reply.sent }
    | .ok messages =>
      let (result, sink) := writeMessages later sink messages
      { result, server := reply.server, sink, sent := reply.sent }

end Server

end FederatedCatalog
