import FederatedCatalog.Proofs.Federation.Run
import FederatedCatalog.Proofs.Server.Effects
import FederatedCatalog.Proofs.Server.Requests

/-!
# Where known servers come from

Lists of servers travel through a federation as texts, are cleaned wherever they are read, and are
passed on by whoever read them. Still nobody is made up on the way: a server that is known somewhere
is the node itself, or what cleaning leaves of another node's identity or of an entry that a client
sent. For this it matters that a list is read back entry by entry as it was written, that an entry
is either read as a whole or passed over, and that cleaning a second time changes nothing.

## Main definitions

* `Peer.Written` and `Incoming.Names`: the server that an entry of a list bears, and the servers
  that the text of an exchange bears;
* `Incoming.Traceable` and `Server.Traceable`: whoever a text names, or a server knows, comes from
  given sources;
* `Federation.Source`: the servers that a run is given.

## Main results

* `Incoming.names_render_iff`: whom a written exchange names;
* `Server.traceable_of_begin?` and `Server.traceable_gossip`: a server that is done with a traceable
  text is traceable, and so is what it gossips;
* `Federation.traceable_invariant`: so are all servers of a federation, through all events;
* `Federation.acquaintance_run`: whom the nodes know after a run.
-/

namespace FederatedCatalog

/-! ### What a text names -/

/-- The entry of a list of servers bears this hostname and this port, in so many words. -/
def Peer.Written (source : Peer) (v : Json) : Prop :=
  v.get? "hostname" = some (.string source.hostname) ∧
    (v.get? "port").bind Json.natural? = some source.port.toUInt64

/-- The text is an exchange, and an entry of its list bears this server. -/
def Incoming.Names (text : String) (source : Peer) : Prop :=
  command? text = some Command.exchange.name ∧
    ∃ entries, member? "serverList" text = some (.array entries) ∧ ∃ v ∈ entries, source.Written v

namespace Peer

variable {source p : Peer}

/-- An entry that is read as a server bears a hostname and a port, and the server is what is
received of them. -/
theorem exists_written_of_ofJson? {v : Json} (h : ofJson? v = some p) :
    ∃ source : Peer, source.Written v ∧ source.received? = some p := by
  obtain ⟨hostname, n, hhostname, hport, hrange, -⟩ := exists_members_of_ofJson? h
  have hwide : (UInt16.ofNat n.toNat).toUInt64 = n := by
    rw [← UInt64.toNat_inj, UInt16.toNat_toUInt64, UInt16.toNat_ofNat', Nat.mod_eq_of_lt hrange]
  refine ⟨⟨hostname, UInt16.ofNat n.toNat⟩, ⟨hhostname, hport.trans (congrArg some hwide.symm)⟩, ?_⟩
  rw [← h, ofJson?_of_members hhostname hport hrange]
  rfl

/-- The entry that is written for a server bears this server and no other. -/
theorem written_toJson_iff : source.Written p.toJson ↔ source = p := by
  constructor
  · rintro ⟨hhostname, hport⟩
    rw [get?_hostname_toJson, Option.some.injEq, Json.string.injEq] at hhostname
    rw [natural?_port_toJson, Option.some.injEq, UInt16.toUInt64_inj] at hport
    cases source
    cases p
    exact congrArg₂ Peer.mk hhostname.symm hport.symm
  · rintro rfl
    exact ⟨source.get?_hostname_toJson, source.natural?_port_toJson⟩

end Peer

/-- A written exchange names the servers in its list. -/
theorem Incoming.names_render_iff {servers : List Peer} {source : Peer} :
    Names (Request.exchange servers).render source ↔ source ∈ servers := by
  have hlist : member? "serverList" (Request.exchange servers).render =
      some (.array (servers.map Peer.toJson)) := by
    rw [member?_render]
    simp [Request.toJson, Request.arguments, Json.get?]
  constructor
  · rintro ⟨-, entries, hentries, v, hv, hwritten⟩
    obtain rfl := Json.array.inj (Option.some.inj (hentries.symm.trans hlist))
    obtain ⟨p, hp, rfl⟩ := List.mem_map.mp hv
    rwa [Peer.written_toJson_iff.mp hwritten]
  · intro hsource
    exact ⟨command?_render _, _, hlist, _, List.mem_map_of_mem hsource,
      Peer.written_toJson_iff.mpr rfl⟩

/-- The servers of an exchange are received of the names in its text. -/
theorem Call.exists_names_of_read {secret text : String} {servers : List Peer} {p : Peer}
    (h : read secret text = .ok (.exchange servers)) (hp : p ∈ servers) :
    ∃ source, Incoming.Names text source ∧ source.received? = some p := by
  obtain ⟨entries, hentries, rfl⟩ := exists_entries_of_read h
  -- entries that cannot be read are passed over, so each server comes from one that was
  obtain ⟨v, hv, hread⟩ := List.mem_filterMap.mp hp
  obtain ⟨source, hwritten, hreceived⟩ := Peer.exists_written_of_ofJson? hread
  exact ⟨source, ⟨(repeats_of_read h).command, entries, hentries, v, hv, hwritten⟩, hreceived⟩

/-! ### Traceable servers -/

variable {sources : Peer → Prop}

/-- Whoever is received of the names in the text is received of a source as well. -/
def Incoming.Traceable (sources : Peer → Prop) (text : String) : Prop :=
  ∀ source p, Names text source → source.received? = some p →
    ∃ source', sources source' ∧ source'.received? = some p

/-- The server is a source, and whom else it knows is received of a source. -/
structure Server.Traceable (sources : Peer → Prop) (s : Server) : Prop where
  self : sources s.directory.self
  known : ∀ p ∈ s.directory.known,
    p = s.directory.self ∨ ∃ source, sources source ∧ source.received? = some p

namespace Server

variable {s s' : Server} {files : FileSystem} {text : String}

/-- A server that is done with a traceable text is traceable. -/
theorem traceable_of_begin? (h : s.Traceable sources) (htext : Incoming.Traceable sources text)
    {messages : List Message} (hbegin : s.begin? files text = .ok (.done messages s')) :
    s'.Traceable sources := by
  let turn : Turn := ⟨files, fun _ _ => .crashed, text⟩
  -- nobody else is asked before the answer is complete, so it does not matter how they answer
  have hreply : (s.reply turn).server = s' := by
    rw [reply_eq_conclude, hbegin]
    rfl
  obtain ⟨servers, hdirectory, hread⟩ := s.directory_reply turn
  rw [hreply] at hdirectory
  have hself : s'.directory.self = s.directory.self := by
    rw [hdirectory, Directory.addAll_self]
  refine ⟨hself ▸ h.self, fun p hp => ?_⟩
  obtain ⟨new, hknown, hnew⟩ := s.directory.exists_known_addAll servers
  rw [hdirectory, hknown, List.mem_append] at hp
  obtain hold | hp := hp
  · rw [hself]
    exact h.known p hold
  · -- only the servers of an exchange are new
    have hp := hnew.subset hp
    obtain rfl | hread := hread
    · exact absurd hp List.not_mem_nil
    · obtain ⟨source, hnames, hreceived⟩ := Call.exists_names_of_read hread hp
      exact .inr (htext source p hnames hreceived)

/-- What a traceable server gossips is traceable. -/
theorem traceable_gossip (h : s.Traceable sources) :
    Incoming.Traceable sources s.directory.gossip := by
  intro source p hnames hreceived
  obtain rfl | ⟨origin, horigin, hsource⟩ := h.known source (Incoming.names_render_iff.mp hnames)
  · exact ⟨_, h.self, hreceived⟩
  · -- the server was cleaned before it was passed on, and cleaning it again changes nothing
    have hsame := (Peer.received?_of_received? hsource).symm.trans hreceived
    exact ⟨origin, horigin, hsource.trans hsame⟩

/-- A query names nobody, so whom a server asks learns of nobody. -/
theorem traceable_of_relay {found : List Resource} {peers : List Peer} {request : String}
    (h : s.begin? files text = .ok (.relay found peers request)) :
    Incoming.Traceable sources request := by
  obtain ⟨call, hrun⟩ : ∃ call, s.run files call = .ok (.relay found peers request) := by
    rw [begin?] at h
    split at h
    · cases h
    · exact ⟨_, h⟩
  obtain ⟨t, rfl⟩ := exists_template_of_relay hrun
  rintro source p ⟨hcommand, -⟩ -
  rw [Incoming.command?_render, Option.some.injEq] at hcommand
  cases Command.name_injective hcommand

/-- A round of gossip leaves a traceable server traceable. -/
theorem Traceable.conclude (h : s.Traceable sources) (peer : Peer) (answer : PeerAnswer) :
    Traceable sources { s with directory := (s.directory.conclude peer answer).directory } where
  self := (Directory.conclude_self _ peer answer).symm ▸ h.self
  known := by
    intro p hp
    rw [Directory.conclude_self]
    exact h.known p (Directory.known_conclude_subset _ peer answer hp)

end Server

/-! ### Runs -/

namespace Federation

/-- All servers stay traceable while clients send traceable texts only. -/
theorem traceable_invariant (sources : Peer → Prop) :
    Invariant (fun f => ∀ node ∈ f.nodes, node.server.Traceable sources)
      (Incoming.Traceable sources) where
  done _ _ _ node _ _ _ h hnode htext hbegin := forall_mem_modify h fun _ _ =>
    Server.traceable_of_begin? (h node (List.mem_of_getElem? hnode)) htext hbegin
  relay _ _ _ _ _ _ := Server.traceable_of_relay
  gossip _ node h hnode := Server.traceable_gossip (h node hnode)
  conclude _ _ _ node peer answer h hnode h' := forall_mem_modify h' fun _ _ =>
    (h node (List.mem_of_getElem? hnode)).conclude peer answer
  reach _ _ _ h := forall_mem_modify h fun node hnode => h node (List.mem_of_getElem? hnode)

/-- The servers that a run of a federation is given: the identities of its nodes, and the entries in
the list of each exchange that a client sends. -/
def Source (members : List (String × Peer)) (events : List Event) (source : Peer) : Prop :=
  source ∈ members.map Prod.snd ∨
    ∃ files index text, .request files index text ∈ events ∧ Incoming.Names text source

variable {members : List (String × Peer)} {events : List Event}

theorem traceable_start :
    ∀ node ∈ (start members).nodes, node.server.Traceable (Source members events) := by
  intro node hnode
  obtain ⟨member, hmember, rfl⟩ := List.mem_map.mp hnode
  exact ⟨.inl (List.mem_map_of_mem hmember), fun p hp => .inl (List.mem_singleton.mp hp)⟩

/-- What a client sends is traceable by definition. -/
theorem traceable_of_mem {files : FileSystem} {index : Nat} {text : String}
    (h : .request files index text ∈ events) :
    Incoming.Traceable (Source members events) text := fun source _ hnames hreceived =>
  ⟨source, .inr ⟨files, index, text, h, hnames⟩, hreceived⟩

/-- However clients ask, servers gossip, and servers go down and come up again: whom a node knows is
the node itself, or it is what cleaning leaves of the identity of some node, or of an entry in the
list of some exchange that a client sent. -/
theorem acquaintance_run (members : List (String × Peer)) (events : List Event) (index : Nat)
    (node : Node) (hnode : ((start members).after events).nodes[index]? = some node) :
    ∀ peer ∈ node.server.directory.known,
      members[index]?.map Prod.snd = some peer ∨
      ∃ source, Source members events source ∧
        Text.clean source.hostname ≠ "" ∧ peer = ⟨Text.clean source.hostname, source.port⟩ := by
  -- the sources are fixed by the whole run beforehand, so that they stay the same at every event
  have htraceable := (traceable_invariant (Source members events)).after traceable_start events
    fun _ _ _ => traceable_of_mem
  intro peer hpeer
  obtain rfl | ⟨source, hsource, hreceived⟩ :=
    (htraceable node (List.mem_of_getElem? hnode)).known peer hpeer
  · left
    rw [← List.getElem?_map]
    exact (steady_after members events).getElem?_identities hnode
  · exact .inr ⟨source, hsource, Peer.received?_eq_some_iff.mp hreceived⟩

/-- Two servers, the first of which pads its hostname. It heard of the second from a client that
pads as well, and told it of itself. -/
def padded : Federation :=
  (start [("s", ⟨" a", 1⟩), ("t", ⟨"b", 2⟩)]).after
    [.request (fun _ => .directory) 0 (Request.exchange [⟨"b ", 2⟩]).render,
      .gossip (fun _ => .directory) 0 fun _ => 0]

/-- The second server knows the first one without its blank. -/
theorem acquaintance_padded :
    padded.nodes[1]?.map (·.server.directory.known) = some [⟨"b", 2⟩, ⟨"a", 1⟩] ∧
    ∃ source : Peer,
      (source ∈ [⟨" a", 1⟩, ⟨"b", 2⟩] ∨
        Incoming.Names (Request.exchange [⟨"b ", 2⟩]).render source) ∧
      Text.clean source.hostname ≠ "" ∧
      Peer.mk "a" 1 = ⟨Text.clean source.hostname, source.port⟩ := by
  let node : Node :=
    { server := { secret := "t", directory := ⟨⟨"b", 2⟩, [⟨"b", 2⟩, ⟨"a", 1⟩]⟩ } }
  have hnode : padded.nodes[1]? = some node := by decide +kernel
  refine ⟨by rw [hnode]; rfl, ?_⟩
  obtain hself | ⟨source, hsource, hreceived⟩ :=
    acquaintance_run _ _ 1 node hnode ⟨"a", 1⟩ (by decide)
  · exact absurd hself (by decide)
  · refine ⟨source, Or.imp_right ?_ hsource, hreceived⟩
    rintro ⟨files, index, text, hevent, hnames⟩
    -- the client sent nothing but the one exchange
    rw [List.mem_pair] at hevent
    obtain hevent | hevent := hevent
    · cases hevent
      exact hnames
    · cases hevent

end Federation

end FederatedCatalog
