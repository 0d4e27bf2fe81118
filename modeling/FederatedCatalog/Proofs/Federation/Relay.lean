import FederatedCatalog.Proofs.Federation.Run
import FederatedCatalog.Proofs.Server.Calls
import FederatedCatalog.Proofs.Server.Envelope

/-!
# Relayed queries

A query that is to be relayed is answered with the matches of the node that took it, followed by the
matches of every other server it knows, each server answering from its own catalog. The relayed text
is read by the others as the template that was written, their frames are read back as the resources
that were written, and nobody relays any further.

## Main definitions

* `Federation.nodeOf?`: the node that answers for an identity;
* `Federation.matchesAt`: what the node of a peer contributes to a relayed query.

## Main results

* `Federation.deliver_query`: a peer that is asked contributes its matches and nothing changes;
* `Federation.process_relay`: what a query to be relayed comes to, however many hops are allowed;
* `Federation.relay_run`: so it is at every node after every run.
-/

namespace FederatedCatalog

/-! ### The relayed template -/

namespace Server

variable {t : Resource}

/-- The template that is relayed is one that a client may supply. -/
theorem supplied_relayedTemplate (h : t.Supplied) : (relayedTemplate t).Supplied where
  clean := by
    have hclean := h.clean
    simp only [Resource.texts, List.forall_mem_cons] at hclean ⊢
    obtain ⟨hname, hdescription, huri, -, -, htags⟩ := hclean
    have hempty : Text.IsClean "" := ⟨by simp, by simp, by simp⟩
    exact ⟨hname, hdescription, huri, hempty, hempty, htags⟩
  origin_eq := rfl
  size_eq := rfl
  unmasked := by
    show ("" == Resource.ownerMask) = false
    decide

/-- Whoever is asked reads the template that was written. -/
theorem read_relayed (secret : String) (h : t.Supplied) :
    Call.read secret (Request.query false (relayedTemplate t)).render =
      .ok (.query false (relayedTemplate t)) := by
  have hsupplied := supplied_relayedTemplate h
  have hnormalized := Resource.normalized_eq_self hsupplied.clean
  rw [Call.read_render_query]
  · exact congrArg (fun t => Except.ok (Call.query false t)) hnormalized
  · rw [hnormalized]
    exact hsupplied.unmasked

end Server

namespace Federation

/-! ### Asking one peer -/

/-- The node that answers for an identity. -/
def nodeOf? (f : Federation) (peer : Peer) : Option Node :=
  f.nodes.find? fun node => identity node == peer

/-- What the node of a peer finds for a template. A node that is down or not there finds nothing. -/
def matchesAt (f : Federation) (t : Resource) (peer : Peer) : List Resource :=
  match f.nodeOf? peer with
  | some node => if node.reachable then node.server.matching t else []
  | none => []

variable {identities : List Peer} {f : Federation} {index : Nat} {server : Server} {node : Node}
  {t : Resource} {text : String}

/-- Among distinct identities, the node that answers for an identity is the one that has it. -/
theorem nodeOf?_identity (hdistinct : (f.nodes.map identity).Nodup) (hnode : node ∈ f.nodes) :
    f.nodeOf? (identity node) = some node := by
  cases hfind : f.nodeOf? (identity node) with
  | none => exact absurd (beq_self_eq_true _) (List.find?_eq_none.mp hfind node hnode)
  | some other =>
    -- the first node with the identity is the only one
    have hsame : identity other = identity node := by simpa using List.find?_some hfind
    rw [List.inj_on_of_nodup_map hdistinct (List.mem_of_find?_eq_some hfind) hnode hsame]

/-- Replacing the server of a node by itself changes nothing. -/
theorem setServer_self (hnode : f.nodes[index]? = some node) :
    f.setServer index node.server = f := by
  have hnodes : f.nodes.modify index (fun other => { other with server := node.server }) =
      f.nodes := by
    apply List.ext_getElem?
    intro i
    rw [List.getElem?_modify]
    by_cases hi : index = i
    · subst hi
      rw [hnode]
      simp
    · simp [hi]
  rw [setServer, hnodes]

/-- Where a node is found, it is the one that answers for the identity. -/
theorem nodeOf?_eq_bind (f : Federation) (peer : Peer) :
    f.nodeOf? peer = (f.indexOf? peer).bind (f.nodes[·]?) :=
  List.find?_eq_bind_findIdx?_getElem?

/-- A query that is not to be relayed is answered from the catalog alone. -/
theorem process_query (f : Federation) (index : Nat) (files : FileSystem) (hops : Nat)
    (h : server.Sound) (hread : Call.read server.secret text = .ok (.query false t)) :
    process files hops f index server text =
      { answer := .ok (Server.queryAnswer (server.matching t))
        federation := f.setServer index server } := by
  have hbegin : server.begin? files text =
      .ok (.done (Server.queryAnswer (server.matching t)) server) := by
    rw [Server.begin?, hread]
    exact (Server.run_query h.healthy files false t).trans (if_neg (by simp))
  rw [process, hbegin]

/-- A peer that is asked contributes its matches. Nothing changes, and nothing else is sent. -/
theorem deliver_query (files : FileSystem) (hops : Nat) (h : f.Steady identities)
    (ht : t.Supplied) (peer : Peer) :
    ∃ answer, deliver (process files hops)
        (Request.query false (Server.relayedTemplate t)).render f peer =
          { answer, federation := f } ∧
      answer.texts.filterMap Resource.ofPeerFrame? =
        f.matchesAt (Server.relayedTemplate t) peer := by
  rw [deliver, matchesAt, nodeOf?_eq_bind]
  cases f.indexOf? peer with
  | none => exact ⟨.failed (.unreachable peer.origin), rfl, rfl⟩
  | some index =>
    simp only [Option.bind_some]
    cases hnode : f.nodes[index]? with
    | none => exact ⟨.failed (.unreachable peer.origin), rfl, rfl⟩
    | some node =>
      by_cases hreachable : node.reachable
      · -- the peer reads the very template, finds its matches and goes on as it was
        have hsound := (h.steady node (List.mem_of_getElem? hnode)).sound
        have hprocess := process_query f index files hops hsound
          (Server.read_relayed node.server.secret ht)
        rw [setServer_self hnode] at hprocess
        simp only [if_pos hreachable, hprocess]
        exact ⟨_, rfl, Server.resources_queryAnswer _⟩
      · simp only [if_neg hreachable]
        exact ⟨.failed (.unreachable peer.origin), rfl, rfl⟩

/-! ### Asking all peers -/

/-- Asking peers in turn joins their matches in order, with one request to each of them. -/
theorem askAll_query (files : FileSystem) (hops : Nat) (h : f.Steady identities)
    (ht : t.Supplied) (sender : Peer) (peers : List Peer) :
    let request := (Request.query false (Server.relayedTemplate t)).render
    ∃ answers, askAll sender request (deliver (process files hops) request) f peers =
          { answer := answers, federation := f, sent := peers.map (⟨sender, ·, request⟩) } ∧
      Server.relayed answers = peers.flatMap (f.matchesAt (Server.relayedTemplate t)) := by
  intro request
  induction peers with
  | nil => exact ⟨[], rfl, rfl⟩
  | cons peer peers ih =>
    obtain ⟨answers, hanswers, hrelayed⟩ := ih
    obtain ⟨answer, hanswer, hmatches⟩ := deliver_query files hops h ht peer
    refine ⟨answer :: answers, ?_, ?_⟩
    · rw [askAll, hanswer, hanswers]
      rfl
    · rw [Server.relayed, List.flatMap_cons, hmatches, List.flatMap_cons, ← hrelayed,
        Server.relayed]

/-- A query to be relayed is answered with the local matches and those of the other servers, in the
order in which they are known. Each of them gets one request, and nothing changes. -/
theorem process_relay (files : FileSystem) (hops : Nat) (h : f.Steady identities)
    (hnode : f.nodes[index]? = some node)
    (hread : Call.read node.server.secret text = .ok (.query true t)) :
    let peers := node.server.directory.others
    let request := (Request.query false (Server.relayedTemplate t)).render
    process files (hops + 1) f index node.server text =
      { answer := .ok (Server.queryAnswer
          (node.server.matching t ++ peers.flatMap (f.matchesAt (Server.relayedTemplate t))))
        federation := f
        sent := peers.map (⟨node.server.directory.self, ·, request⟩) } := by
  intro peers request
  have hsound := (h.steady node (List.mem_of_getElem? hnode)).sound
  have hrun := Server.run_query hsound.healthy files true t
  by_cases hothers : peers = []
  · -- with nobody to ask, the answer is complete at once
    have hbegin : node.server.begin? files text =
        .ok (.done (Server.queryAnswer (node.server.matching t)) node.server) := by
      rw [Server.begin?, hread]
      exact hrun.trans (if_neg fun hboth => hboth.2 hothers)
    rw [process, hbegin, hothers]
    simp only [setServer_self hnode, List.flatMap_nil, List.append_nil, List.map_nil]
  · have hbegin : node.server.begin? files text =
        .ok (.relay (node.server.matching t) peers request) := by
      rw [Server.begin?, hread]
      exact hrun.trans (if_pos ⟨rfl, hothers⟩)
    obtain ⟨answers, hanswers, hrelayed⟩ :=
      askAll_query files hops h (Call.valid_of_read hread) node.server.directory.self peers
    rw [process, hbegin]
    show Outcome.mk _ _ _ = _
    rw [hanswers, hrelayed]

/-! ### Runs -/

/-- At every node, after every run of a federation with distinct identities, a query to be relayed
is answered with the success frame, the local matches, the matches of each other server in the order
in which the node knows them, and their number. The node sends one request to each other server, the
others send none, no node changes, and it does not matter how many hops are allowed. What a peer
contributes comes from the node with its identity, if there is one and it is not down. -/
theorem relay_run (members : List (String × Peer)) (hdistinct : (members.map Prod.snd).Nodup)
    (events : List Event) (files : FileSystem) (index : Nat) (node : Node) (text : String)
    (t : Resource) (hnode : ((start members).after events).nodes[index]? = some node)
    (hread : Call.read node.server.secret text = .ok (.query true t)) :
    let f := (start members).after events
    let self := node.server.directory.self
    let peers := node.server.directory.others
    let relayed := Server.relayedTemplate t
    let found := node.server.matching t ++ peers.flatMap (f.matchesAt relayed)
    let outcome : Outcome (Except Failure (List Message)) :=
      { answer := .ok (.success :: found.map (fun r => .frame r.render) ++
          [.resultSize found.length])
        federation := f
        sent := peers.map fun peer => ⟨self, peer, (Request.query false relayed).render⟩ }
    f.request files index text = some outcome ∧
    (∀ hops, process files (hops + 1) f index node.server text = outcome) ∧
    peers.Nodup ∧
    (∀ other ∈ f.nodes, f.matchesAt relayed (identity other) =
      if other.reachable then other.server.matching relayed else []) ∧
    ∀ peer, peer ∉ f.nodes.map identity → f.matchesAt relayed peer = [] := by
  intro f self peers relayed found outcome
  have hsteady : f.Steady (members.map Prod.snd) := steady_after members events
  -- the invariant is all that the run has to give
  have hprocess : ∀ hops, process files (hops + 1) f index node.server text = outcome :=
    fun hops => process_relay files hops hsteady hnode hread
  refine ⟨?_, hprocess, ?_, ?_, ?_⟩
  · rw [request, hnode, Option.map_some]
    exact congrArg some (hprocess 0)
  · exact (hsteady.steady node (List.mem_of_getElem? hnode)).known_nodup.filter _
  · intro other hother
    rw [← hsteady.identities_eq] at hdistinct
    rw [matchesAt, nodeOf?_identity hdistinct hother]
  · intro peer hpeer
    have hnone : f.nodeOf? peer = none := by
      refine List.find?_eq_none.mpr fun other hother hsame => hpeer ?_
      rw [← eq_of_beq hsame]
      exact List.mem_map_of_mem hother
    rw [matchesAt, hnone]

/-- A federation of two servers, one of which learned of the other, which published a resource. -/
def couple : Federation :=
  (start [("s", ⟨"a", 1⟩), ("t", ⟨"b", 2⟩)]).after
    [.request (fun _ => .directory) 0 (Request.exchange [⟨"b", 2⟩]).render,
      .request (fun _ => .directory) 1 (Request.publish { uri := "x:y" }).render]

/-- The second server of the couple contributes what it published. -/
theorem relay_couple :
    couple.request (fun _ => .directory) 0 (Request.query true {}).render =
      some
        { answer := .ok
            [.success, .frame (Resource.mk "" [] "" "x:y" "" "" (some "b:2") none).render,
              .resultSize 1]
          federation := couple
          sent := [⟨⟨"a", 1⟩, ⟨"b", 2⟩, (Request.query false {}).render⟩] } := by
  let node : Node :=
    { server := { secret := "s", directory := ⟨⟨"a", 1⟩, [⟨"a", 1⟩, ⟨"b", 2⟩]⟩ } }
  have hdistinct : (List.map Prod.snd
      [("s", (⟨"a", 1⟩ : Peer)), ("t", (⟨"b", 2⟩ : Peer))]).Nodup := by
    decide
  have hnode : couple.nodes[0]? = some node := by decide +kernel
  have hread : Call.read node.server.secret (Request.query true {}).render = .ok (.query true {}) :=
    Call.read_render_query node.server.secret true {} (by decide +kernel)
  have hfound : node.server.matching {} ++
      node.server.directory.others.flatMap (couple.matchesAt (Server.relayedTemplate {})) =
        [Resource.mk "" [] "" "x:y" "" "" (some "b:2") none] := by
    decide +kernel
  obtain ⟨hrequest, -⟩ := relay_run _ hdistinct _ (fun _ => .directory) 0 node _ _ hnode hread
  rw [couple] at hfound ⊢
  rw [hrequest, hfound]
  rfl

end Federation

end FederatedCatalog
