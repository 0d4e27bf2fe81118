import FederatedCatalog.Frame.Stream
import FederatedCatalog.Message.Status
import FederatedCatalog.Resource.Encoding
import FederatedCatalog.Server.Connector

/-!
# Asking a server

The client side of a connection, used to ask peers and to fetch files. One request is written; then
everything that the server answers is read. What is read here is the bytes that the server sends
until it closes the connection.
-/

namespace FederatedCatalog

/-- The state of a connection that a client opened. -/
inductive Dialled where
  /-- The server did not take the connection. -/
  | refused
  /-- The server took it and will send these bytes. -/
  | connected (reply : Source)

/-- Everything that a fetch brought back. -/
structure Fetched where
  /-- The text frames, in order; the description is among them. -/
  frames : List String := []
  /-- The description of the file, when there is one. -/
  resource : Option Resource := none
  /-- The bytes of the file. -/
  bytes : ByteArray := .empty

namespace Client

/-- Read frames until the connection ends. A frame that cannot be read ends the reading too; it is a
failure only if no frame came before it. `frames` holds the frames so far in reverse, and the first
argument bounds the number of frames. -/
def collect : Nat → List String → Source → Except Failure (List String)
  | 0, frames, _ => .ok frames.reverse
  | bound + 1, frames, source =>
    match Frame.read source with
    | (.ok (some text), source) => collect bound (text :: frames) source
    | (.ok none, _) => .ok frames.reverse
    | (.error failure, _) => if frames.isEmpty then .error failure else .ok frames.reverse

/-- All the frames of a source, after those that were read already. -/
def collectAll (frames : List String) (source : Source) : Except Failure (List String) :=
  collect (source.remaining + 1) frames.reverse source

/-- Write a request. -/
def writeRequest (request : String) : Except Failure ByteArray :=
  match Frame.write {} request with
  | (.ok (), sink) => .ok sink.accepted
  | (.error failure, _) => .error failure

/-- Send a request and collect the frames of the answer. -/
def send (peer : Peer) (request : String) : Dialled → Except Failure (List String)
  | .refused => .error (.unreachable peer.origin)
  | .connected reply => do
    let _ ← writeRequest request
    collectAll [] reply

/-- Read the answer to a fetch: a status, and after success a description, as many bytes as the
description says and the frames that are left. -/
def readFetched (reply : Source) : Except Failure Fetched :=
  match Frame.read reply with
  | (.error failure, _) => .error failure
  | (.ok none, _) => .ok {}
  | (.ok (some first), reply) =>
    if Status.isSuccess first then
      match Frame.read reply with
      | (.error failure, _) => .error failure
      | (.ok none, _) => .error .missingDescription
      | (.ok (some description), reply) =>
        match Resource.ofPeerFrame? description with
        | none => .error (.badDescription description)
        | some resource =>
          match Frame.readBytes reply ((resource.size.map UInt64.toNat).getD 0) with
          | (.error failure, _) => .error failure
          | (.ok bytes, reply) =>
            (collectAll [first, description] reply).map fun frames =>
              { frames, resource := some resource, bytes }
    else .ok { frames := [first] }

/-- Send a request to fetch and read the answer. -/
def fetch (peer : Peer) (request : String) : Dialled → Except Failure Fetched
  | .refused => .error (.unreachable peer.origin)
  | .connected reply => do
    let _ ← writeRequest request
    readFetched reply

end Client

/-- The connector of a server that dials its peers. -/
def Connector.dialling (dial : Peer → String → Dialled) : Connector := fun peer request =>
  match Client.send peer request (dial peer request) with
  | .ok texts => .frames texts
  | .error failure => .failed failure

end FederatedCatalog
