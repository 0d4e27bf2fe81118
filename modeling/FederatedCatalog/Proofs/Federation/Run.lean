import FederatedCatalog.Federation
import FederatedCatalog.Proofs.Server.Run

/-!
# Runs of a federation

The servers of a federation take requests, gossip, go down and come up again, in any order. However
they got there, every catalog works, no directory lists a server twice and nobody changes their
name.

## Main definitions

* `Federation.Event`, `Federation.start` and `Federation.after`: what may happen to a federation,
  how it begins, and what it is after a run of events;
* `Federation.Invariant`: what has to be shown of single servers for a property of federations to be
  kept by every event, with all that the event causes elsewhere;
* `Server.Steady` and `Federation.Steady`: what stays true of each server, and of a federation whose
  servers have given identities.

## Main results

* `Federation.Invariant.process`, `Federation.Invariant.on` and `Federation.Invariant.after`: such a
  property is kept by requests, by events and by runs;
* `Federation.steady_invariant` and `Federation.steady_after`: a federation stays steady.
-/

namespace FederatedCatalog

/-- The server is sound and its directory lists no server twice. -/
structure Server.Steady (s : Server) : Prop where
  sound : s.Sound
  known_nodup : s.directory.known.Nodup

/-- A steady server goes on as a steady one. -/
theorem Server.Steady.continues {s s' : Server} {m : OwnershipMap} (h : s.Steady)
    (hcontinues : s.Continues m s') : s'.Steady := by
  obtain ⟨peers, hpeers⟩ := hcontinues.directory_eq
  refine ⟨hcontinues.sound, ?_⟩
  rw [hpeers]
  exact Directory.nodup_addAll h.known_nodup peers

/-- A round of gossip leaves a steady server steady. -/
theorem Server.Steady.conclude {s : Server} (h : s.Steady) (peer : Peer) (answer : PeerAnswer) :
    Server.Steady { s with directory := (s.directory.conclude peer answer).directory } where
  sound := ⟨h.sound.healthy, h.sound.unambiguous⟩
  known_nodup := Directory.nodup_conclude h.known_nodup peer answer

namespace Federation

/-! ### Events -/

/-- What may happen to a federation. -/
inductive Event where
  /-- A client sends a request to a node. -/
  | request (files : FileSystem) (index : Nat) (text : String)
  /-- A node gossips. -/
  | gossip (files : FileSystem) (index : Nat) (selector : Nat → Nat)
  /-- A node goes down or comes up. -/
  | reach (index : Nat) (reachable : Bool)

/-- Servers with these secrets and identities that list nothing and know only themselves. -/
def start (members : List (String × Peer)) : Federation :=
  { nodes := members.map fun member => { server := .start member.1 member.2 } }

/-- The federation after an event. An event at a node that is not there does nothing. -/
def on (f : Federation) : Event → Federation
  | .request files index text => ((f.request files index text).map Outcome.federation).getD f
  | .gossip files index selector => ((f.gossip files index selector).map Outcome.federation).getD f
  | .reach index reachable => f.setReachable index reachable

/-- The federation after a run of events. -/
def after (f : Federation) (events : List Event) : Federation := events.foldl on f

/-! ### Invariants -/

/-- The property `P` of federations is kept by every event in which clients send only texts with the
property `Q`, because each server for itself keeps it, and the texts that servers send one another
have the property `Q` as well. -/
structure Invariant (P : Federation → Prop) (Q : String → Prop) : Prop where
  done : ∀ f files index node text messages server, P f → f.nodes[index]? = some node → Q text →
    node.server.begin? files text = .ok (.done messages server) → P (f.setServer index server)
  relay : ∀ files (server : Server) text found peers request,
    server.begin? files text = .ok (.relay found peers request) → Q request
  gossip : ∀ f node, P f → node ∈ f.nodes → Q node.server.directory.gossip
  /-- By the time a round of gossip ends, the federation may be another one. -/
  conclude : ∀ f f' index node peer answer, P f → f.nodes[index]? = some node → P f' →
    P (f'.setServer index
      { node.server with directory := (node.server.directory.conclude peer answer).directory })
  reach : ∀ f index reachable, P f → P (f.setReachable index reachable)

namespace Invariant

variable {P : Federation → Prop} {Q : String → Prop} {f : Federation} {index : Nat} {node : Node}

/-- What is kept by asking each peer is kept by asking all of them. -/
theorem askAll {sender : Peer} {request : String} {ask : Federation → Peer → Outcome PeerAnswer}
    (hask : ∀ f peer, P f → P (ask f peer).federation) (h : P f) (peers : List Peer) :
    P (askAll sender request ask f peers).federation := by
  induction peers generalizing f with
  | nil => exact h
  | cons peer peers ih => exact ih (hask f peer h)

/-- What is kept by processing a request is kept by handing it to a peer. -/
theorem deliver
    {process : Federation → Nat → Server → String → Outcome (Except Failure (List Message))}
    {request : String}
    (hprocess : ∀ f index node, P f → f.nodes[index]? = some node →
      P (process f index node.server request).federation)
    (h : P f) (peer : Peer) : P (deliver process request f peer).federation := by
  unfold Federation.deliver
  split
  · exact h
  · split
    · exact h
    next node hnode =>
      split
      · exact hprocess f _ node h hnode
      · exact h

/-- Processing a request keeps the property, however many hops it may take. -/
theorem process (hinvariant : Invariant P Q) (files : FileSystem) (hops : Nat) {text : String}
    (h : P f) (hnode : f.nodes[index]? = some node) (htext : Q text) :
    P (process files hops f index node.server text).federation := by
  -- a relayed request is processed with one hop less, so the induction is on the hops
  induction hops generalizing f index node text with
  | zero =>
    unfold Federation.process
    split
    · exact h
    · exact h
    next hbegin => exact hinvariant.done f files index node text _ _ h hnode htext hbegin
    next => exact askAll (fun f peer hf => hf) h _
  | succ hops ih =>
    unfold Federation.process
    split
    · exact h
    · exact h
    next hbegin => exact hinvariant.done f files index node text _ _ h hnode htext hbegin
    next hbegin =>
      have hrequest := hinvariant.relay files node.server text _ _ _ hbegin
      refine askAll (fun f peer hf => ?_) h _
      exact deliver (fun f index node hf hnode => ih hf hnode hrequest) hf peer

/-- Every event keeps the property. -/
theorem on (hinvariant : Invariant P Q) (h : P f) {event : Event}
    (htext : ∀ files index text, event = .request files index text → Q text) :
    P (f.on event) := by
  cases event with
  | request files index text =>
    rw [Federation.on, Federation.request]
    cases hnode : f.nodes[index]? with
    | none => exact h
    | some node => exact hinvariant.process files hops h hnode (htext files index text rfl)
  | gossip files index selector =>
    rw [Federation.on, Federation.gossip]
    cases hnode : f.nodes[index]? with
    | none => exact h
    | some node =>
      simp only [Option.map_some, Option.getD_some]
      split
      · exact h
      next peer _ =>
        have hgossip := hinvariant.gossip f node h (List.mem_of_getElem? hnode)
        have hdelivered := deliver
          (fun f index node hf hnode => hinvariant.process files hops hf hnode hgossip) h peer
        split
        · exact hdelivered
        · exact hinvariant.conclude f _ index node peer _ h hnode hdelivered
  | reach index reachable => exact hinvariant.reach f index reachable h

/-- Every run keeps the property. -/
theorem after (hinvariant : Invariant P Q) (h : P f) (events : List Event)
    (htexts : ∀ files index text, .request files index text ∈ events → Q text) :
    P (f.after events) := by
  induction events generalizing f with
  | nil => exact h
  | cons event events ih =>
    have hfirst : P (f.on event) := hinvariant.on h fun files index text hevent =>
      htexts files index text (hevent ▸ List.mem_cons_self)
    exact ih hfirst fun files index text hevent =>
      htexts files index text (List.mem_cons_of_mem event hevent)

end Invariant

/-! ### Steady federations -/

/-- The nodes have these identities and every server is steady. -/
structure Steady (identities : List Peer) (f : Federation) : Prop where
  identities_eq : f.nodes.map identity = identities
  steady : ∀ node ∈ f.nodes, node.server.Steady

/-- The server is steady and has the identity of the node at the index. -/
structure Stands (f : Federation) (index : Nat) (server : Server) : Prop where
  steady : server.Steady
  self_eq : ∀ node, f.nodes[index]? = some node → server.directory.self = identity node

variable {identities : List Peer} {f : Federation} {index : Nat} {server : Server} {node : Node}

/-- What holds of all nodes holds of them when one is changed, if it holds of the changed one. -/
theorem forall_mem_modify {S : Node → Prop} {nodes : List Node} {index : Nat} {change : Node → Node}
    (h : ∀ node ∈ nodes, S node)
    (hchange : ∀ node, nodes[index]? = some node → S (change node)) :
    ∀ node ∈ nodes.modify index change, S node := by
  intro node hnode
  obtain ⟨i, hi⟩ := List.mem_iff_getElem?.mp hnode
  rw [List.getElem?_modify] at hi
  obtain ⟨old, hold, hnew⟩ := Option.map_eq_some_iff.mp hi
  by_cases hindex : index = i
  · subst hindex
    rw [if_pos rfl] at hnew
    exact hnew ▸ hchange old hold
  · rw [if_neg hindex] at hnew
    exact hnew ▸ h old (List.mem_of_getElem? hold)

/-- Changing a node keeps the invariant if its identity stays and its server is steady. -/
theorem Steady.modify (h : f.Steady identities) (index : Nat) (change : Node → Node)
    (hidentity : ∀ node, f.nodes[index]? = some node → identity (change node) = identity node)
    (hsteady : ∀ node, f.nodes[index]? = some node → (change node).server.Steady) :
    Steady identities { nodes := f.nodes.modify index change } where
  identities_eq := by
    -- compare the nodes one by one; only the one at `index` may be another
    rw [← h.identities_eq]
    apply List.ext_getElem?
    intro i
    rw [List.getElem?_map, List.getElem?_map, List.getElem?_modify]
    by_cases hi : index = i
    · subst hi
      cases hnode : f.nodes[index]? with
      | none => rfl
      | some node => simp [hidentity node hnode]
    · simp [hi]
  steady := forall_mem_modify h.steady hsteady

theorem Steady.getElem?_identities (h : f.Steady identities) (hnode : f.nodes[index]? = some node) :
    identities[index]? = some (identity node) := by
  rw [← h.identities_eq, List.getElem?_map, hnode]
  rfl

/-- The server of a node stands there. -/
theorem Steady.stands (h : f.Steady identities) (hnode : f.nodes[index]? = some node) :
    f.Stands index node.server where
  steady := h.steady node (List.mem_of_getElem? hnode)
  self_eq := by
    intro node' hnode'
    obtain rfl := Option.some.inj (hnode.symm.trans hnode')
    rfl

/-- Replacing a server by one that stands there keeps the invariant. -/
theorem Steady.setServer (h : f.Steady identities) (hstands : f.Stands index server) :
    (f.setServer index server).Steady identities :=
  h.modify index _ hstands.self_eq fun _ _ => hstands.steady

/-- A server that goes on still stands at its node. -/
theorem Stands.continues (h : f.Stands index server) {server' : Server} {m : OwnershipMap}
    (hcontinues : server.Continues m server') : f.Stands index server' where
  steady := h.steady.continues hcontinues
  self_eq := by
    intro node hnode
    rw [hcontinues.self_eq, h.self_eq node hnode]

/-- A server that is done with a request stands at its node. -/
theorem Stands.done (h : f.Stands index server) {files : FileSystem} {text : String}
    {messages : List Message} {server' : Server}
    (hbegin : server.begin? files text = .ok (.done messages server')) :
    f.Stands index server' := by
  have hrefines := Server.begin?_refines h.steady.sound files text
  rw [hbegin] at hrefines
  generalize server.specify files text = specified at hrefines
  cases hrefines with
  | done succeeds continues => exact h.continues continues

/-! ### Runs -/

/-- A federation stays steady, whatever its clients send. -/
theorem steady_invariant (identities : List Peer) :
    Invariant (Steady identities) fun _ => True where
  done _ _ _ _ _ _ _ h hnode _ hbegin := h.setServer ((h.stands hnode).done hbegin)
  relay _ _ _ _ _ _ _ := trivial
  gossip _ _ _ _ := trivial
  conclude f f' index node peer answer h hnode h' := by
    -- the federation may have changed while the peer took the list, but no identity did
    refine h'.setServer ⟨?_, fun node' hnode' => ?_⟩
    · exact (h.steady node (List.mem_of_getElem? hnode)).conclude peer answer
    · have hsame := (h.getElem?_identities hnode).symm.trans (h'.getElem?_identities hnode')
      exact (Directory.conclude_self _ peer answer).trans (Option.some.inj hsame)
  reach _ index _ h := h.modify index _ (fun _ _ => rfl)
    fun node hnode => h.steady node (List.mem_of_getElem? hnode)

theorem steady_start (members : List (String × Peer)) :
    (start members).Steady (members.map Prod.snd) where
  identities_eq := by
    rw [start, List.map_map]
    rfl
  steady := by
    intro node hnode
    obtain ⟨member, -, rfl⟩ := List.mem_map.mp hnode
    exact ⟨Server.sound_empty _ _, List.nodup_singleton _⟩

/-- The invariant holds after every run. -/
theorem steady_after (members : List (String × Peer)) (events : List Event) :
    ((start members).after events).Steady (members.map Prod.snd) :=
  (steady_invariant _).after (steady_start members) events fun _ _ _ _ => trivial

end Federation

end FederatedCatalog
