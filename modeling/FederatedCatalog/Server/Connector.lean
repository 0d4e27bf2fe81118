import FederatedCatalog.Failure
import FederatedCatalog.Peer.Basic

/-!
# Talking to peers

A server sends a request to a peer and collects the frames that it answers with. How peers behave is
no matter of the server: it is given as a function from the peer and the request to the outcome.
-/

namespace FederatedCatalog

/-- What came of sending a request to a peer. -/
inductive PeerAnswer where
  /-- The frames that the peer answered with, possibly none. -/
  | frames (texts : List String)
  /-- Nothing could be read back. -/
  | failed (failure : Failure)
  /-- The task that talked to the peer crashed. -/
  | crashed
  deriving Repr, DecidableEq

/-- The frames of an answer; a failure and a crash have none. -/
def PeerAnswer.texts : PeerAnswer → List String
  | frames texts => texts
  | _ => []

/-- How peers answer requests. -/
abbrev Connector := Peer → String → PeerAnswer

/-- A request that was sent to a peer. -/
structure Dispatch where
  /-- The peer. -/
  peer : Peer
  /-- The text of the request. -/
  request : String
  deriving Repr, DecidableEq

end FederatedCatalog
