import FederatedCatalog.Failure
import FederatedCatalog.IpAddress.Parser

/-!
# Settings

What a server needs to know before it starts, with the usual values, and the secret that is drawn
when none is given.
-/

namespace FederatedCatalog

/-- The settings of a server. Intervals are in seconds. -/
structure Settings where
  /-- The address to listen on. -/
  listenAddress : String := "0.0.0.0"
  /-- The port to listen on, which is advertised too. -/
  port : UInt16 := 3000
  /-- What a client must know to share files. -/
  secret : String
  /-- The hostname that is advertised to peers and stamped into answers. -/
  advertisedHostname : String := "localhost"
  /-- The least time between two connections from one address. -/
  connectionInterval : UInt64 := 1
  /-- The time between rounds of gossip. -/
  exchangeInterval : UInt64 := 600
  /-- The longest time for a single read or write. -/
  socketTimeout : UInt64 := 60
  /-- How many connections are served at once. -/
  maxWorkers : UInt64 := 20
  /-- Whether to report what happens. -/
  debug : Bool := false
  deriving Repr, DecidableEq

namespace Settings

/-- The address and port to listen on. -/
def bindAddress (s : Settings) : Except Failure (IpAddress × UInt16) :=
  match IpAddress.parse? s.listenAddress with
  | some address => .ok (address, s.port)
  | none => .error (.listenAddress s.listenAddress)

/-- The length of a secret that is drawn. -/
def secretLength : Nat := 26

/-- The characters of a secret that is drawn. -/
def secretAlphabet : List Char :=
  "ABCDEFGHIJKLMNOPQRSTUVWXYZabcdefghijklmnopqrstuvwxyz0123456789".toList

/-- The secret that some random numbers draw. -/
def drawSecret (numbers : Nat → Nat) : String :=
  String.ofList <| (List.range secretLength).map fun i =>
    secretAlphabet.getD (numbers i % secretAlphabet.length) '0'

end Settings

end FederatedCatalog
