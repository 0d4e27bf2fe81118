import FederatedCatalog.Message.Request
import FederatedCatalog.Message.Status
import FederatedCatalog.Peer.Directory
import FederatedCatalog.Server.Connector

/-!
# Gossip

In a round of gossip a server sends the whole list of servers it knows to one of them. A peer that
does not answer with success first is dropped.
-/

namespace FederatedCatalog

/-- What came of a round of gossip. -/
inductive RoundOutcome where
  /-- No other server is known. -/
  | idle
  /-- The peer acknowledged the list. -/
  | exchanged (peer : Peer)
  /-- The peer did not acknowledge the list and was dropped. -/
  | evicted (peer : Peer)
  /-- The task that talked to the peer crashed, and the round with it. -/
  | crashed (peer : Peer)
  deriving Repr, DecidableEq

/-- A round of gossip. -/
structure Round where
  /-- What came of it. -/
  outcome : RoundOutcome
  /-- The directory afterwards. -/
  directory : Directory
  /-- What was sent. -/
  sent : List Dispatch := []
  deriving Repr, DecidableEq

namespace PeerAnswer

/-- Whether the first frame of an answer reports success. -/
def acknowledges (answer : PeerAnswer) : Bool := answer.texts.head?.any Status.isSuccess

end PeerAnswer

namespace Directory

/-- The text that a server gossips: every server it knows, itself included. -/
def gossip (d : Directory) : String := (Request.exchange d.known).render

/-- What a round comes to when the peer has answered. -/
def conclude (d : Directory) (peer : Peer) (answer : PeerAnswer) : Round :=
  let sent := [⟨peer, d.gossip⟩]
  if answer = .crashed then ⟨.crashed peer, d, sent⟩
  else if answer.acknowledges then ⟨.exchanged peer, d, sent⟩
  else ⟨.evicted peer, d.remove peer, sent⟩

/-- One round of gossip. -/
def exchangeRound (d : Directory) (selector : Nat → Nat) (connector : Connector) : Round :=
  match d.target? selector with
  | none => ⟨.idle, d, []⟩
  | some peer => d.conclude peer (connector peer d.gossip)

end Directory

end FederatedCatalog
