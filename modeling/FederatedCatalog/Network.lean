import Std.Async.DNS
import Std.Async.Select
import Std.Async.TCP
import Std.Async.Timer
import FederatedCatalog.Client
import FederatedCatalog.Server.Connection

/-!
# The network and the files of the host

What the program does to the outside world: dial a peer, receive a frame, send bytes and look at a
file, both for what is seen of it and for what can be opened. Every single step on a connection has
the same time limit. What the bytes mean is decided by the modules that this one imports; here they
are only moved.
-/

namespace FederatedCatalog.Network

open Std.Async Std.Net

/-- A connection. -/
abbrev Client := TCP.Socket.Client

/-- The longest wait for a single step, in milliseconds. -/
abbrev Limit := Nat

/-- The most bytes that are received or sent at once. -/
def chunkSize : Nat := 64 * 1024

/-- Wait for some milliseconds. -/
def pause (millis : Nat) : Async Unit := sleep (.ofNat millis)

/-- Run a step, or give up after the time limit. -/
def within {α : Type} (limit : Limit) (step : Async α) : Async (Option α) :=
  Async.race (do return some (← step)) (do pause limit; return none)

/-- An address as the network layer takes it. -/
def toIpAddr : IpAddress → IPAddr
  | .v4 bits => .v4 ⟨Vector.ofFn fun i => UInt8.ofNat ((IpAddress.octets bits).getD i 0)⟩
  | .v6 bits => .v6 ⟨Vector.ofFn fun i => UInt16.ofNat ((IpAddress.groups bits).getD i 0)⟩

/-- An address as the network layer gives it. -/
def ofIpAddr : IPAddr → IpAddress
  | .v4 a => .v4 (IpAddress.ofOctets (a.octets.toList.map UInt8.toNat))
  | .v6 a => .v6 (IpAddress.ofGroups (a.segments.toList.map UInt16.toNat))

/-- An address and a port as the network layer takes them. -/
def socketAddress (address : IPAddr) (port : UInt16) : SocketAddress :=
  match address with
  | .v4 a => .v4 ⟨a, port⟩
  | .v6 a => .v6 ⟨a, port⟩

/-- The address and the port that the network layer gives. -/
def ofSocketAddress : SocketAddress → IpAddress × UInt16
  | .v4 a => (ofIpAddr (.v4 a.addr), a.port)
  | .v6 a => (ofIpAddr (.v6 a.addr), a.port)

/-- Receive one piece of bytes; nothing when the other side has closed, and no answer at all after
the time limit. -/
def receivePiece (client : Client) (limit : Limit) : Async (Option (Option ByteArray)) := do
  Selectable.one #[
    .case (client.recvSelector (UInt64.ofNat chunkSize)) fun piece => return some piece,
    .case (← Selector.sleep (.ofNat limit)) fun _ => return none]

/-- Receive until the bytes so far are enough, the other side closes or the time limit passes. -/
partial def receiveUntil (client : Client) (limit : Limit) (enough : ByteArray → Bool)
    (bytes : ByteArray) : Async Source := do
  if enough bytes then return Source.ofBytes bytes
  match ← receivePiece client limit with
  | none => return Source.ofBytes bytes .silent
  | some none => return Source.ofBytes bytes
  | some (some piece) => receiveUntil client limit enough (bytes ++ piece)

/-- Whether reading a frame from these bytes has an outcome that no further bytes change. -/
def settlesFrame (bytes : ByteArray) : Bool :=
  match (Frame.readPayload (Source.ofBytes bytes .silent)).1 with
  | .error .timedOut => false
  | _ => true

/-- Receive as much as decides on one frame. -/
def receiveFrame (client : Client) (limit : Limit) : Async Source :=
  receiveUntil client limit settlesFrame .empty

/-- Receive everything. -/
def receiveAll (client : Client) (limit : Limit) : Async Source :=
  receiveUntil client limit (fun _ => false) .empty

/-- Send bytes from a place on. The answer says whether all of them went out in time. -/
partial def sendFrom (client : Client) (limit : Limit) (bytes : ByteArray) (sent : Nat) :
    Async Bool := do
  if bytes.size ≤ sent then return true
  match ← within limit (client.send (bytes.extract sent (sent + chunkSize))) with
  | some () => sendFrom client limit bytes (sent + chunkSize)
  | none => return false

/-- Dial a peer and send a request to it. -/
def dial (limit : Limit) (peer : Peer) (request : String) : Async Dialled := do
  match Client.writeRequest request with
  | .error _ => return .refused
  | .ok bytes =>
    try
      let addresses ← match peer.address with
        | some address => pure #[toIpAddr address]
        | none => DNS.getAddrInfo peer.hostname ""
      for address in addresses do
        let client ← TCP.Socket.Client.mk
        let reached ← try
            within limit (client.connect (socketAddress address peer.port))
          catch _ => pure none
        if reached.isSome then
          if ← sendFrom client limit bytes 0 then return .connected (← receiveAll client limit)
          else return .refused
      return .refused
    catch _ => return .refused

/-- Send a request to a peer and collect the frames of its answer. -/
def ask (limit : Limit) (peer : Peer) (request : String) : Async PeerAnswer := do
  let dialled ← dial limit peer request
  return Connector.dialling (fun _ _ => dialled) peer request

/-- Whether a path leads anywhere on the host. What stands there need not be open to the program. -/
def leadsAnywhere (text : String) : IO Bool := do
  try
    let _ ← IO.FS.realPath text
    return true
  catch _ => return false

/-- What opening a path on the host gives. A path that is no text cannot be looked at. -/
def openAt (path : Path) : IO Entry := do
  match path.text? with
  | none => return .absent .notFound
  | some text =>
    try
      match FileContent.ofBytes? (← IO.FS.readBinFile text) with
      | some content => return .file content
      | none => return .absent .invalidInput
    catch
      | .inappropriateType .. =>
        -- either a directory stands there, or the path goes on behind a file
        if ← leadsAnywhere text then return .directory else return .absent .notADirectory
      | _ => return .absent .notFound

/-- What is seen at a path on the host, where opening it gave an entry. A file that cannot be opened
is seen all the same. Its length stays unknown, so it is seen as an empty file. -/
def seenAt (path : Path) (opened : Entry) : IO Entry := do
  match opened, path.text? with
  | .absent cause, some text =>
    -- with a slash behind it, the path of a directory still leads there, that of a file does not
    if (← leadsAnywhere text) && !(← leadsAnywhere (text ++ "/")) then return .file .empty
    else return .absent cause
  | _, _ => return opened

/-- The file system as far as one path of it is known. -/
def onlyAt (path : Path) (entry : Entry) : FileSystem := fun p =>
  if p = path then entry else .absent .notFound

/-- The files of the host, as far as a request is about them. -/
structure Sight where
  /-- What is seen. A request is processed on this. -/
  seen : FileSystem := fun _ => .absent .notFound
  /-- What can be opened. An answer is written from this. -/
  opened : FileSystem := fun _ => .absent .notFound

/-- Look at one path of the host. -/
def inspect (path : Path) : IO Sight := do
  let opened ← openAt path
  let seen ← seenAt path opened
  return { seen := onlyAt path seen, opened := onlyAt path opened }

end FederatedCatalog.Network
