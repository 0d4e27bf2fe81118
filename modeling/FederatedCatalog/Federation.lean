import FederatedCatalog.Server.Gossip
import FederatedCatalog.Server.Processor

/-!
# Federations

Servers that reach one another directly, on one file system. A request that a server sends to a peer
is processed by the first server with the peer's identity, and the frames of its answer travel back.
A server that is down cannot be reached by others, but still takes requests of its own clients.
-/

namespace FederatedCatalog

/-- A server of a federation. -/
structure Node where
  /-- The server. -/
  server : Server
  /-- Whether the others can reach it. -/
  reachable : Bool := true
  deriving Repr, DecidableEq

/-- A request from one server to another. -/
structure Transmission where
  /-- Who sent it. -/
  sender : Peer
  /-- Whom it was sent to. -/
  receiver : Peer
  /-- Its text. -/
  request : String
  deriving Repr, DecidableEq

/-- Servers that reach one another. -/
structure Federation where
  /-- The servers. -/
  nodes : List Node
  deriving Repr, DecidableEq

namespace Federation

/-- The identity of a node. -/
def identity (node : Node) : Peer := node.server.directory.self

/-- Where the node with an identity stands. -/
def indexOf? (f : Federation) (peer : Peer) : Option Nat :=
  f.nodes.findIdx? fun node => identity node == peer

/-- Replace the server of a node. -/
def setServer (f : Federation) (index : Nat) (server : Server) : Federation :=
  { nodes := f.nodes.modify index fun node => { node with server } }

/-- Make a node reachable or not. -/
def setReachable (f : Federation) (index : Nat) (reachable : Bool) : Federation :=
  { nodes := f.nodes.modify index fun node => { node with reachable } }

/-- What came of a request at some node. -/
structure Outcome (α : Type) where
  /-- The answer. -/
  answer : α
  /-- The federation afterwards. -/
  federation : Federation
  /-- What the servers sent one another. -/
  sent : List Transmission := []

/-- The frames among messages, as an answer to another server. -/
def asPeerAnswer : Except Failure (List Message) → PeerAnswer
  | .ok messages => .frames (messages.filterMap Message.text?)
  | .error failure => .failed failure

/-- Ask peers in turn, each by `ask`. -/
def askAll (sender : Peer) (request : String)
    (ask : Federation → Peer → Outcome PeerAnswer) :
    Federation → List Peer → Outcome (List PeerAnswer)
  | f, [] => { answer := [], federation := f }
  | f, peer :: peers =>
    let first := ask f peer
    let others := askAll sender request ask first.federation peers
    { answer := first.answer :: others.answer
      federation := others.federation
      sent := ⟨sender, peer, request⟩ :: first.sent ++ others.sent }

/-- Hand a request to the node with an identity, which processes it by `process`. -/
def deliver (process : Federation → Nat → Server → String → Outcome (Except Failure (List Message)))
    (request : String) (f : Federation) (peer : Peer) : Outcome PeerAnswer :=
  match f.indexOf? peer with
  | none => { answer := .failed (.unreachable peer.origin), federation := f }
  | some index =>
    match f.nodes[index]? with
    | none => { answer := .failed (.unreachable peer.origin), federation := f }
    | some node =>
      if node.reachable then
        let outcome := process f index node.server request
        { outcome with answer := asPeerAnswer outcome.answer }
      else { answer := .failed (.unreachable peer.origin), federation := f }

/-- Process a request at the server `server` of the node at `index`. Requests that servers send one
another may cause further ones; the first argument bounds how far that goes. -/
def process (fs : FileSystem) :
    Nat → Federation → Nat → Server → String → Outcome (Except Failure (List Message))
  | hops, f, index, server, text =>
    match server.begin? fs text with
    | .error (.rejected rejection) => { answer := .ok [.rejected rejection], federation := f }
    | .error (.failed failure) => { answer := .error failure, federation := f }
    | .ok (.done messages server) =>
      { answer := .ok messages, federation := f.setServer index server }
    | .ok (.relay found peers request) =>
      let ask (f : Federation) (peer : Peer) : Outcome PeerAnswer :=
        match hops with
        | 0 => { answer := .failed .timedOut, federation := f }
        | hops + 1 => deliver (process fs hops) request f peer
      let answers := askAll server.directory.self request ask f peers
      { answer := .ok (Server.queryAnswer (found ++ Server.relayed answers.answer))
        federation := answers.federation
        sent := answers.sent }

/-- How far requests between servers may cause further ones. A relayed query is never relayed
again, so one hop reaches every server that is asked. -/
def hops : Nat := 1

/-- A client's request at the node at `index`. -/
def request (f : Federation) (fs : FileSystem) (index : Nat) (text : String) :
    Option (Outcome (Except Failure (List Message))) :=
  f.nodes[index]?.map fun node => process fs hops f index node.server text

/-- A round of gossip of the node at `index`. -/
def gossip (f : Federation) (fs : FileSystem) (index : Nat) (selector : Nat → Nat) :
    Option (Outcome RoundOutcome) :=
  f.nodes[index]?.map fun node =>
    let d := node.server.directory
    match d.target? selector with
    | none => { answer := .idle, federation := f }
    | some peer =>
      let reply := deliver (process fs hops) d.gossip f peer
      let f := reply.federation
      let round := d.conclude peer reply.answer
      let server := { node.server with directory := round.directory }
      { answer := round.outcome
        federation := if round.directory = d then f else f.setServer index server
        sent := ⟨d.self, peer, d.gossip⟩ :: reply.sent }

end Federation

end FederatedCatalog
