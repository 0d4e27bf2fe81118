import FederatedCatalog.Resource.Basic
import FederatedCatalog.Json.Parser
import FederatedCatalog.Json.Printer

/-!
# Resources as JSON

The members of a resource object, writing them and the two ways of reading them: what a client
supplies is cleaned and loses origin and size, what a peer answers is taken as it is.
-/

namespace FederatedCatalog.Resource

/-- The object of a resource. Origin and size appear only when they are set. -/
def toJson (r : Resource) : Json :=
  .object <|
    [("name", .string r.name), ("tags", .array (r.tags.map .string)),
      ("description", .string r.description), ("uri", .string r.uri),
      ("channel", .string r.channel), ("owner", .string r.owner)] ++
    (r.origin.map fun o => ("ezserver", Json.string o)).toList ++
    (r.size.map fun n => ("resourceSize", Json.ofNat n.toNat)).toList

/-- The text of a resource in a frame. -/
def render (r : Resource) : String := r.toJson.render

/-- A text member; absent counts as empty. -/
def textMember? (v : Json) (key : String) : Option String :=
  match v.get? key with
  | none => some ""
  | some member => member.string?

/-- The member with the tags; absent counts as no tags. -/
def tagsMember? (v : Json) : Option (List String) :=
  match v.get? "tags" with
  | none => some []
  | some member => do (← member.array?).mapM Json.string?

/-- A member that may be absent or null. -/
def optionalMember? {α : Type} (v : Json) (key : String) (read : Json → Option α) :
    Option (Option α) :=
  match v.get? key with
  | none | some .null => some none
  | some member => (read member).map some

/-- The resource that an object describes; a known member of another type is refused. -/
def ofObject? (v : Json) : Option Resource := do
  let name ← textMember? v "name"
  let tags ← tagsMember? v
  let description ← textMember? v "description"
  let uri ← textMember? v "uri"
  let channel ← textMember? v "channel"
  let owner ← textMember? v "owner"
  let origin ← optionalMember? v "ezserver" Json.string?
  let size ← optionalMember? v "resourceSize" Json.natural?
  return { name, tags, description, uri, channel, owner, origin, size }

/-- The resource or template that a client supplies: cleaned, without origin and size. -/
def ofRequest? (v : Json) : Option Resource := do
  guard v.isObject
  let r ← ofObject? v
  return { r with origin := none, size := none }.normalized

/-- The resource in a frame that a peer answered with. A frame without a URI is a status or a count
and no resource. -/
def ofPeerFrame? (frame : String) : Option Resource := do
  let v ← Json.parse? frame
  let _ ← (← v.get? "uri").string?
  ofObject? v

end FederatedCatalog.Resource
