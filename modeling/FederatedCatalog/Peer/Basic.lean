import FederatedCatalog.IpAddress.Parser
import FederatedCatalog.Json.Parser
import FederatedCatalog.Json.Printer
import FederatedCatalog.Text.Blank

/-!
# Peers

A server of the federation is known by its hostname and port. The text `hostname:port` is stamped
into answers as the origin of a resource; where a server is dialled, an address of version 6 stands
in brackets.
-/

namespace FederatedCatalog

/-- The identity of a server. -/
structure Peer where
  /-- The advertised hostname or address, as given. -/
  hostname : String
  /-- The port. -/
  port : UInt16
  deriving Repr, DecidableEq, Inhabited

namespace Peer

/-- The address of a peer whose hostname is an IP address. -/
def address (p : Peer) : Option IpAddress := IpAddress.parse? p.hostname

/-- The text that identifies a server, never bracketed. -/
def origin (p : Peer) : String := p.hostname ++ ":" ++ toString p.port.toNat

/-- The text that is dialled. -/
def dialTarget (p : Peer) : String :=
  match p.address with
  | some address => address.textWithPort p.port
  | none => p.origin

/-- The entry of a peer in a list of servers. -/
def toJson (p : Peer) : Json :=
  .object [("hostname", .string p.hostname), ("port", Json.ofNat p.port.toNat)]

/-- Read an entry of a list of servers: a hostname that is not empty after cleaning, and a port. -/
def ofJson? (v : Json) : Option Peer := do
  let hostname := Text.clean (← (← v.get? "hostname").string?)
  guard !hostname.isEmpty
  let port ← (← v.get? "port").natural?
  guard (port.toNat < 65536)
  return ⟨hostname, UInt16.ofNat port.toNat⟩

end Peer

end FederatedCatalog
