import FederatedCatalog.Text.Blank

/-!
# Resources

A resource is an item that a server lists: it lives in a channel under a URI and belongs to an
owner. The pair of channel and URI is its location; location and owner together are its identity.
Origin and size are assigned by servers and never taken from clients.
-/

namespace FederatedCatalog

/-- An item of a catalog, and at the same time the template of a query. -/
structure Resource where
  /-- A human-readable name. -/
  name : String := ""
  /-- Free labels. -/
  tags : List String := []
  /-- A human-readable description. -/
  description : String := ""
  /-- Where the item is found. -/
  uri : String := ""
  /-- The channel it is listed in. -/
  channel : String := ""
  /-- Who may replace or remove it. -/
  owner : String := ""
  /-- The server that lists it. -/
  origin : Option String := none
  /-- The length of the file behind it, in bytes. -/
  size : Option UInt64 := none
  deriving Repr, DecidableEq, Inhabited

namespace Resource

/-- The owner that stands for any real owner in answers; nobody may use it as their own. -/
def ownerMask : String := "*"

/-- Whether the owner is the mask. -/
def hasMaskedOwner (r : Resource) : Bool := r.owner == ownerMask

/-- Clean every text of a resource. -/
def normalized (r : Resource) : Resource :=
  { r with
    name := Text.clean r.name
    tags := r.tags.map Text.clean
    description := Text.clean r.description
    uri := Text.clean r.uri
    channel := Text.clean r.channel
    owner := Text.clean r.owner }

/-- The copy handed out in answers: an owner is masked and the origin is stamped. -/
def sanitized (r : Resource) (origin : String) : Resource :=
  { r with
    owner := if r.owner.isEmpty then r.owner else ownerMask
    origin := some origin }

/-- Whether two resources claim the same channel and URI. -/
def sameLocation (a b : Resource) : Bool := a.channel == b.channel && a.uri == b.uri

/-- Whether two resources are versions of the same entry. -/
def sameIdentity (a b : Resource) : Bool := a.sameLocation b && a.owner == b.owner

end Resource

end FederatedCatalog
