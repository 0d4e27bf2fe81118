import FederatedCatalog.Message.Command
import FederatedCatalog.Peer.Basic
import FederatedCatalog.Resource.Encoding
import FederatedCatalog.Uri.Parser

/-!
# Calls

A call is a request that passed every check that does not depend on the state of a server: its
command is known, its arguments have the right form, its secret is right, its owner is no mask and
its URI is of the kind that the command asks for. Reading a call is where most rejections come from,
and the order of the checks decides which one a request with several faults gets.
-/

namespace FederatedCatalog

/-- A request that is ready to be run. -/
inductive Call where
  /-- List a resource under a URI that names no file. -/
  | publish (resource : Resource)
  /-- Remove the entry with the identity of a resource. -/
  | remove (resource : Resource)
  /-- List the file at a path. -/
  | share (resource : Resource) (path : Path)
  /-- Find the resources that meet a template, at the other servers too if it is to be relayed. -/
  | query (relay : Bool) (template : Resource)
  /-- Hand out the file at a path, if it is listed at the location of a template. -/
  | fetch (template : Resource) (path : Path)
  /-- Learn of servers. -/
  | exchange (servers : List Peer)
  deriving Repr, DecidableEq

namespace Call

/-- The resource that a client supplies under a key. -/
def resource? (request : Json) (key : String) (missing : Rejection) : Except Rejection Resource :=
  match (request.get? key).bind Resource.ofRequest? with
  | some r => .ok r
  | none => .error missing

/-- Refuse the mask as an owner. -/
def refuseMask (r : Resource) (rejection : Rejection) : Except Rejection Unit :=
  if r.hasMaskedOwner then .error rejection else .ok ()

/-- A value, or a rejection. -/
def orReject {α : Type} (rejection : Rejection) : Option α → Except Rejection α
  | some a => .ok a
  | none => .error rejection

/-- Read a request to publish. -/
def readPublish (request : Json) : Except Rejection Call := do
  let r ← resource? request "resource" .missingResource
  refuseMask r .invalidResource
  let uri ← orReject .cannotPublish (Uri.parse? r.uri)
  if uri.scheme = Uri.fileScheme then .error .cannotPublish else .ok (.publish r)

/-- Read a request to remove. -/
def readRemove (request : Json) : Except Rejection Call := do
  let r ← resource? request "resource" .missingResource
  refuseMask r .invalidResource
  let _ ← orReject .cannotRemove (Uri.parse? r.uri)
  .ok (.remove r)

/-- Read a request to share. The secret is compared before the resource is looked at. -/
def readShare (secret : String) (request : Json) : Except Rejection Call := do
  let _ ← orReject .missingResourceOrSecret (request.get? "resource")
  let given ← orReject .missingResourceOrSecret (request.get? "secret")
  if given.string? ≠ some secret then .error .incorrectSecret
  let r ← resource? request "resource" .missingResource
  refuseMask r .invalidResource
  let path ← orReject .cannotShare (Uri.localPath? r.uri)
  .ok (.share r path)

/-- Whether a query is to be relayed. -/
def relay? : Json → Option Bool
  | .bool relay => some relay
  | _ => none

/-- Read a query. -/
def readQuery (request : Json) : Except Rejection Call := do
  let relay ← orReject .missingTemplate ((request.get? "relay").bind relay?)
  let t ← resource? request "resourceTemplate" .missingTemplate
  refuseMask t .invalidTemplate
  .ok (.query relay t)

/-- Read a request to fetch. -/
def readFetch (request : Json) : Except Rejection Call := do
  let t ← resource? request "resourceTemplate" .missingTemplate
  let path ← orReject .invalidTemplate (Uri.localPath? t.uri)
  refuseMask t .invalidTemplate
  .ok (.fetch t path)

/-- Read a list of servers; entries that are no servers are passed over. -/
def readExchange (request : Json) : Except Rejection Call := do
  let entries ← orReject .invalidServerList ((request.get? "serverList").bind Json.array?)
  .ok (.exchange (entries.filterMap Peer.ofJson?))

/-- Read the arguments of a command. -/
def readArguments (secret : String) (request : Json) : Command → Except Rejection Call
  | .publish => readPublish request
  | .remove => readRemove request
  | .share => readShare secret request
  | .query => readQuery request
  | .fetch => readFetch request
  | .exchange => readExchange request

/-- Read a request of a server with this secret. -/
def read (secret : String) (text : String) : Except Rejection Call := do
  let request ← orReject .malformedRequest (Json.parse? text)
  let name ← orReject .malformedRequest ((request.get? "command").bind Json.string?)
  let command ← Command.ofName? name
  readArguments secret request command

end Call

end FederatedCatalog
