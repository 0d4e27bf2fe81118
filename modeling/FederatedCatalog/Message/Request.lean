import FederatedCatalog.Message.Command
import FederatedCatalog.Peer.Basic
import FederatedCatalog.Resource.Encoding

/-!
# Requests as they are sent

The requests that servers and clients send, and their text.
-/

namespace FederatedCatalog

/-- A request on its way to a server. -/
inductive Request where
  | publish (resource : Resource)
  | remove (resource : Resource)
  | share (secret : String) (resource : Resource)
  | query (relay : Bool) (template : Resource)
  | fetch (template : Resource)
  | exchange (servers : List Peer)
  deriving Repr, DecidableEq, Inhabited

namespace Request

/-- The command of a request. -/
def command : Request → Command
  | publish _ => .publish
  | remove _ => .remove
  | share _ _ => .share
  | query _ _ => .query
  | fetch _ => .fetch
  | exchange _ => .exchange

/-- The members of a request after its command. -/
def arguments : Request → List (String × Json)
  | publish r | remove r => [("resource", r.toJson)]
  | share secret r => [("secret", .string secret), ("resource", r.toJson)]
  | query relay t => [("relay", .bool relay), ("resourceTemplate", t.toJson)]
  | fetch t => [("resourceTemplate", t.toJson)]
  | exchange servers => [("serverList", .array (servers.map Peer.toJson))]

/-- The object of a request. -/
def toJson (q : Request) : Json := .object (("command", .string q.command.name) :: q.arguments)

/-- The text of a request. -/
def render (q : Request) : String := q.toJson.render

end Request

end FederatedCatalog
