import FederatedCatalog.Catalog
import FederatedCatalog.Message.Outbound
import FederatedCatalog.Message.Request
import FederatedCatalog.Peer.Directory
import FederatedCatalog.Server.Call
import FederatedCatalog.Server.Connector

/-!
# Processing requests

A server holds a secret, a catalog and a directory of servers. It answers a request at once, except
for a query that is to be relayed: then the other servers are asked first, and what they answer is
joined to the local matches. Rejections are ordinary answers; only a poisoned catalog makes
processing fail.
-/

namespace FederatedCatalog

/-- The state of a server. -/
structure Server where
  /-- What a client must know to share files. -/
  secret : String
  /-- The listed resources. -/
  catalog : Catalog := {}
  /-- The known servers. -/
  directory : Directory
  deriving Repr, DecidableEq

/-- Why a call is not answered with success. -/
inductive Refusal where
  /-- The request is turned down. -/
  | rejected (rejection : Rejection)
  /-- The server itself failed. -/
  | failed (failure : Failure)
  deriving Repr, DecidableEq

/-- How a call goes on. -/
inductive Step where
  /-- The answer is complete. -/
  | done (messages : List Message) (server : Server)
  /-- The other servers are to be asked, in this order and with this text. -/
  | relay (found : List Resource) (peers : List Peer) (request : String)
  deriving Repr, DecidableEq

/-- What came of a request. -/
structure Reply where
  /-- The messages of the answer, or why there is none. -/
  answer : Except Failure (List Message)
  /-- The server afterwards. -/
  server : Server
  /-- What was sent to other servers meanwhile. -/
  sent : List Dispatch := []

namespace Server

/-- A server that lists nothing and knows only itself. -/
def start (secret : String) (self : Peer) : Server := { secret, directory := .start self }

/-- The text that a server stamps into its answers. -/
def origin (s : Server) : String := s.directory.self.origin

/-- A failure as a refusal. -/
def orFail {α : Type} (e : Except Failure α) : Except Refusal α := e.mapError .failed

/-- Store a resource unless another owner holds its location. -/
def storeOwned (s : Server) (r : Resource) (conflict : Rejection) : Except Refusal Step := do
  if ← orFail (s.catalog.hasConflict r) then .error (.rejected conflict)
  let (_, catalog) ← orFail (s.catalog.store r)
  .ok (.done [.success] { s with catalog })

/-- The template that is relayed: owner and channel are kept from the other servers. -/
def relayedTemplate (t : Resource) : Resource :=
  { t with owner := "", channel := "", origin := none, size := none }

/-- The answer to a query that found these resources. -/
def queryAnswer (found : List Resource) : List Message :=
  .success :: found.map (fun r => .frame r.render) ++ [.resultSize found.length]

/-- The description of a file that is handed out. -/
def description (s : Server) (stored : Resource) (size : UInt64) : Resource :=
  { stored.sanitized s.origin with owner := Resource.ownerMask, size := some size }

/-- Run a call. -/
def run (s : Server) (fs : FileSystem) : Call → Except Refusal Step
  | .publish r => s.storeOwned r .cannotPublish
  | .remove r => do
    let (removed, catalog) ← orFail (s.catalog.removeFirst (·.sameIdentity r))
    if removed.isNone then .error (.rejected .cannotRemove)
    .ok (.done [.success] { s with catalog })
  | .share r path =>
    if (fs path).fileSize?.isNone then .error (.rejected .cannotShare)
    else s.storeOwned { r with origin := some s.origin } .cannotShare
  | .query relay t => do
    let found ← orFail (s.catalog.query t s.origin)
    let peers := s.directory.others
    if relay ∧ peers ≠ [] then
      .ok (.relay found peers (Request.query false (relayedTemplate t)).render)
    else .ok (.done (queryAnswer found) s)
  | .fetch t path => do
    match ← orFail (s.catalog.find? (·.sameLocation t)) with
    | none => .error (.rejected .noMatchingResource)
    | some stored =>
      match (fs path).fileSize? with
      | none => .error (.rejected .resourceMissing)
      | some size =>
        .ok (.done [.success, .frame (s.description stored size).render, .file path size,
          .resultSize 1] s)
  | .exchange servers => .ok (.done [.success] { s with directory := s.directory.addAll servers })

/-- Read a request and run it. -/
def begin? (s : Server) (fs : FileSystem) (text : String) : Except Refusal Step :=
  match Call.read s.secret text with
  | .error rejection => .error (.rejected rejection)
  | .ok call => s.run fs call

/-- The resources in the answers of other servers: frames that are no resources are passed over. -/
def relayed (answers : List PeerAnswer) : List Resource :=
  answers.flatMap fun answer => answer.texts.filterMap Resource.ofPeerFrame?

/-- Process a request, given how the other servers answer. -/
def process (s : Server) (fs : FileSystem) (connector : Connector) (text : String) : Reply :=
  match s.begin? fs text with
  | .error (.rejected rejection) => { answer := .ok [.rejected rejection], server := s }
  | .error (.failed failure) => { answer := .error failure, server := s }
  | .ok (.done messages server) => { answer := .ok messages, server }
  | .ok (.relay found peers request) =>
    { answer := .ok (queryAnswer (found ++ relayed (peers.map (connector · request))))
      server := s
      sent := peers.map (⟨·, request⟩) }

end Server

end FederatedCatalog
