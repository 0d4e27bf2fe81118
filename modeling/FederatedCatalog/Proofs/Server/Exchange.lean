import FederatedCatalog.Proofs.Server.Membership
import FederatedCatalog.Proofs.Server.Requests

/-!
# What an exchange teaches

An exchange bears a list of servers. Anybody may send one, with any values in the list, and a server
takes from it what it can read: entries that are no servers are passed over, servers that it knows
are not listed again, and neither is the server itself. In which order and how often exchanges come
in does not matter to whom a server knows in the end.

A server also hears its own list back. The other names in it were cleaned when they were learned of,
so they come back as they are. The name of the server itself was not: what comes back of it is its
cleaned form, and where that is another name the server takes it for somebody else.

## Main definitions

* `Peer.Entry`: a JSON value is the entry of a server;
* `Incoming.spread`: the servers that a request spreads.

## Main results

* `Peer.ofJson?_eq_some_iff`: which entries are read, and as whom;
* `Server.reply_exchange` and `Server.directory_after`: an exchange, and a run of requests;
* `Server.exchange_law`: what an exchange does to the list of known servers;
* `Server.echo_law`: what a server makes of its own list.
-/

namespace FederatedCatalog

/-! ### Entries -/

/-- The JSON value is the entry of a server: an object with a text as its hostname, of which
cleaning leaves the hostname of the server, and with the port of the server as an integer. -/
structure Peer.Entry (p : Peer) (v : Json) : Prop where
  isObject : v.isObject
  hostname : ∃ text, v.get? "hostname" = some (.string text) ∧ Text.clean text = p.hostname
  present : p.hostname ≠ ""
  port : v.get? "port" = some (.number (.integer p.port.toNat))

/-- The servers that a request spreads: those in the list of an exchange whose entries are read. -/
def Incoming.spread (text : String) : List Peer :=
  if command? text = some Command.exchange.name then
    (((member? "serverList" text).bind Json.array?).getD []).filterMap Peer.ofJson?
  else []

theorem Json.isObject_of_get? {key : String} {v member : Json} (h : v.get? key = some member) :
    v.isObject := by
  cases v with
  | object members => rfl
  | null | bool | number | string | array => cases h

/-- A number of 64 bits is read of the integer and of nothing else. -/
theorem Json.natural?_eq_some_iff {v : Json} {n : UInt64} :
    v.natural? = some n ↔ v = .number (.integer n.toNat) := by
  constructor
  · intro h
    cases v with
    | number m =>
      cases m with
      | integer i =>
        rw [natural?] at h
        split at h
        next hrange =>
          obtain rfl := Option.some.inj h
          have hwide : i.toNat < UInt64.size := by omega
          rw [UInt64.toNat_ofNat_of_lt' hwide, Int.toNat_of_nonneg hrange.1]
        next => cases h
      | decimal => cases h
    | null | bool | string | array | object => cases h
  · rintro rfl
    exact Resource.natural?_ofNat n

namespace Peer

variable {p : Peer} {v : Json}

/-- Exactly the entry of a server is read as the server. -/
theorem ofJson?_eq_some_iff : ofJson? v = some p ↔ p.Entry v := by
  constructor
  · intro h
    obtain ⟨text, n, hhostname, hport, hrange, hp⟩ := exists_members_of_ofJson? h
    obtain ⟨member, hmember, hnumber⟩ := Option.bind_eq_some_iff.mp hport
    have hwidth : p.port.toNat = n.toNat := by
      rw [hp]
      exact UInt16.toNat_ofNat_of_lt hrange
    refine ⟨Json.isObject_of_get? hhostname, ⟨text, hhostname, (congrArg hostname hp).symm⟩, ?_, ?_⟩
    · -- where nothing is left of the hostname the entry is passed over
      rw [ofJson?_of_members hhostname hport hrange] at h
      rintro hempty
      rw [hp] at hempty
      rw [if_pos (String.isEmpty_iff.mpr hempty)] at h
      cases h
    · rw [hmember, Json.natural?_eq_some_iff.mp hnumber, hwidth]
  · rintro ⟨-, ⟨text, hhostname, hclean⟩, hpresent, hport⟩
    have hnumber : (v.get? "port").bind Json.natural? = some p.port.toUInt64 := by
      rw [hport, Option.bind_some, Json.natural?_eq_some_iff, UInt16.toNat_toUInt64]
    have hrange : p.port.toUInt64.toNat < 65536 := p.port.toNat_lt
    rw [ofJson?_of_members hhostname hnumber hrange, hclean, if_neg (by simpa using hpresent),
      UInt16.toNat_toUInt64, UInt16.ofNat_toNat]

/-- A server that was read is received again as it is. -/
theorem Entry.received?_eq (h : p.Entry v) : p.received? = some p := by
  obtain ⟨-, ⟨text, -, hclean⟩, hpresent, -⟩ := h
  have hclean' : Text.clean p.hostname = p.hostname := by rw [← hclean, Text.clean_clean]
  rw [received?_eq_some_iff, hclean']
  exact ⟨hpresent, rfl⟩

end Peer

theorem Incoming.received?_eq_of_mem_spread {text : String} {p : Peer} (h : p ∈ spread text) :
    p.received? = some p := by
  rw [spread] at h
  split at h
  · obtain ⟨v, -, hread⟩ := List.mem_filterMap.mp h
    exact (Peer.ofJson?_eq_some_iff.mp hread).received?_eq
  · cases h

namespace Server

variable {s : Server}

/-! ### Exchanges -/

/-- An exchange is acknowledged, and the server learns of the servers in its list. -/
theorem reply_exchange (s : Server) {turn : Turn} {entries : List Json}
    (hcommand : Incoming.command? turn.text = some Command.exchange.name)
    (hlist : (Incoming.member? "serverList" turn.text).bind Json.array? = some entries) :
    s.reply turn =
      { answer := .ok [.success]
        server := { s with directory :=
          s.directory.addAll (entries.filterMap Peer.ofJson?) } } := by
  rw [reply_of_read (Call.read_of_serverList s.secret hcommand hlist)]
  rfl

/-- A request teaches a server the servers that it spreads. -/
theorem directory_reply_eq (s : Server) (turn : Turn) :
    (s.reply turn).server.directory = s.directory.addAll (Incoming.spread turn.text) := by
  obtain ⟨servers, hdirectory, hservers⟩ := s.directory_reply turn
  by_cases hcommand : Incoming.command? turn.text = some Command.exchange.name
  · cases hlist : (Incoming.member? "serverList" turn.text).bind Json.array? with
    | some entries =>
      rw [reply_exchange s hcommand hlist, Incoming.spread, if_pos hcommand, hlist]
      rfl
    | none =>
      -- an exchange without a list is turned down
      obtain rfl | hread := hservers
      · rw [hdirectory, Incoming.spread, if_pos hcommand, hlist]
        rfl
      · obtain ⟨entries, hentries, -⟩ := Call.exists_entries_of_read hread
        rw [hentries] at hlist
        cases hlist
  · -- no other command spreads servers
    obtain rfl | hread := hservers
    · rw [hdirectory, Incoming.spread, if_neg hcommand]
    · exact absurd (Call.repeats_of_read hread).command hcommand

/-- A run of requests teaches a server, one after the other, the servers that they spread. -/
theorem directory_after (s : Server) (turns : List Turn) :
    (s.after turns).directory =
      s.directory.addAll (turns.flatMap fun turn => Incoming.spread turn.text) := by
  induction turns generalizing s with
  | nil => rfl
  | cons turn turns ih =>
    -- the first request is taken by `s` itself, the others by what it leaves
    have hafter : s.after (turn :: turns) = (s.reply turn).server.after turns := rfl
    rw [hafter, ih, directory_reply_eq, List.flatMap_cons, Directory.addAll_append]

/-- Whom a server knows after a run: whom it knew, and whom the requests spread, apart from
itself. -/
theorem mem_known_after {turns : List Turn} {p : Peer} :
    p ∈ (s.after turns).directory.known ↔
      p ∈ s.directory.known ∨
        (∃ text ∈ turns.map Turn.text, p ∈ Incoming.spread text) ∧ p ≠ s.directory.self := by
  rw [directory_after, Directory.mem_known_addAll, List.mem_flatMap]
  simp only [List.mem_map, exists_exists_and_eq_and]

/-- An exchange puts behind the servers that are known, in the order of its list and each of them
once, those whose entries are in the list and which are neither known nor the server itself. It
changes nothing else, and nothing at all when it comes in again. Two runs in which the same texts
come in, in whatever order and however often, leave the server with the same acquaintances. -/
theorem exchange_law (s : Server) (turn : Turn) (entries : List Json)
    (hcommand : Incoming.command? turn.text = some Command.exchange.name)
    (hlist : Incoming.member? "serverList" turn.text = some (.array entries)) :
    let d := s.directory
    let new := ((entries.filterMap Peer.ofJson?).filter fun p => p ∉ d.known ∧ p ≠ d.self).eraseDups
    let reply := s.reply turn
    (∀ v p, Peer.ofJson? v = some p ↔ p.Entry v) ∧
    reply =
      { answer := .ok [.success]
        server := { s with directory := { d with known := d.known ++ new } } } ∧
    (∀ again : Turn, again.text = turn.text →
      (reply.server.reply again).server = reply.server) ∧
    ∀ turns turns' : List Turn,
      (∀ text, text ∈ turns.map Turn.text ↔ text ∈ turns'.map Turn.text) →
      ∀ p, p ∈ (s.after turns).directory.known ↔ p ∈ (s.after turns').directory.known := by
  intro d new reply
  have hentries : (Incoming.member? "serverList" turn.text).bind Json.array? = some entries := by
    rw [hlist]
    rfl
  have hreply : reply = _ := reply_exchange s hcommand hentries
  refine ⟨fun v p => Peer.ofJson?_eq_some_iff, ?_, fun again htext => ?_,
    fun turns turns' htexts p => ?_⟩
  · rw [hreply, Directory.addAll_eq]
  · -- the second time, whoever is in the list is known already or the server itself
    rw [← htext] at hcommand hentries
    rw [reply_exchange reply.server hcommand hentries, hreply]
    simp only [Directory.addAll_addAll_self]
  · -- membership in the list of known servers looks at nothing but which texts came in
    rw [mem_known_after, mem_known_after]
    simp only [htexts]

/-- A list that bears a server twice, once with blanks around its hostname, then the server `a:1`,
and then three values that are no entries before another one that is. -/
def motley : List Json :=
  [Peer.toJson ⟨" b ", 2⟩, Peer.toJson ⟨"b", 2⟩, Peer.toJson ⟨"a", 1⟩, Peer.toJson ⟨" ", 3⟩,
    .object [("hostname", .string "c"), ("port", Json.ofNat 65536)], .null, Peer.toJson ⟨"d", 0⟩]

/-- The exchange that bears this list. -/
def motleyTurn : Turn :=
  { Turn.plain (.exchange []) with
    text := (Json.object [("command", .string Command.exchange.name),
      ("serverList", .array motley)]).render }

/-- The server `a:1` learns of two servers. -/
theorem exchange_law_motley :
    let s := Server.start "s" ⟨"a", 1⟩
    Incoming.command? motleyTurn.text = some Command.exchange.name ∧
      Incoming.member? "serverList" motleyTurn.text = some (.array motley) ∧
      s.reply motleyTurn =
        { answer := .ok [.success]
          server := { s with directory := ⟨⟨"a", 1⟩, [⟨"a", 1⟩, ⟨"b", 2⟩, ⟨"d", 0⟩]⟩ } } := by
  intro s
  have hparse : Json.parse? motleyTurn.text = some (.object [("command", .string "EXCHANGE"),
      ("serverList", .array motley)]) := by
    apply Json.parse?_render
    simp [Json.maxDepth, Json.Plain, motley, Peer.toJson, Json.ofNat]
  have hcommand : Incoming.command? motleyTurn.text = some Command.exchange.name := by
    rw [Incoming.command?, Incoming.member?, hparse]
    rfl
  have hlist : Incoming.member? "serverList" motleyTurn.text = some (.array motley) := by
    rw [Incoming.member?, hparse]
    rfl
  have hnew : ((motley.filterMap Peer.ofJson?).filter fun p =>
      p ∉ s.directory.known ∧ p ≠ s.directory.self).eraseDups = [⟨"b", 2⟩, ⟨"d", 0⟩] := by
    decide +kernel
  obtain ⟨-, hreply, -⟩ := exchange_law s motleyTurn motley hcommand hlist
  refine ⟨hcommand, hlist, ?_⟩
  rw [hreply, hnew]
  rfl

end Server

/-! ### Echoes -/

namespace Directory

variable {d : Directory}

/-- Of its own list a server hears nothing new but its own name, as cleaning leaves it, provided
that everybody else in it is received as he is. -/
theorem addAll_received (h : d.Orderly) (hlearned : ∀ p ∈ d.others, p.received? = some p) :
    d.addAll (d.known.filterMap Peer.received?) = d.addAll d.self.received?.toList := by
  have hothers : d.others.filterMap Peer.received? = d.others := by
    calc d.others.filterMap Peer.received?
        = d.others.filterMap some := List.filterMap_congr hlearned
      _ = d.others := List.filterMap_some
  have hheard : d.known.filterMap Peer.received? = d.self.received?.toList ++ d.others := by
    rw [h.known_eq, List.filterMap_cons, hothers]
    cases d.self.received? <;> rfl
  rw [hheard, addAll_append]
  -- the others are known already, whether or not the cleaned name comes on top
  apply addAll_eq_self
  intro p hp
  exact .inl (mem_known_addAll.mpr (.inl (List.mem_of_mem_filter hp)))

/-- A server that hears its own name, as cleaning leaves it, puts it behind the others, unless
nothing is left of it or it is a name that the server knows. -/
theorem addAll_cleaned (h : d.Orderly) :
    let cleaned : Peer := ⟨Text.clean d.self.hostname, d.self.port⟩
    d.addAll d.self.received?.toList =
      if cleaned.hostname = "" ∨ cleaned ∈ d.known then d
      else { d with known := d.known ++ [cleaned] } := by
  intro cleaned
  by_cases hempty : cleaned.hostname = ""
  · rw [if_pos (.inl hempty), Peer.received?, if_pos (String.isEmpty_iff.mpr hempty)]
    rfl
  · have hreceived : d.self.received? = some cleaned :=
      Peer.received?_eq_some_iff.mpr ⟨hempty, rfl⟩
    rw [hreceived]
    by_cases hknown : cleaned ∈ d.known
    · rw [if_pos (.inr hknown)]
      apply addAll_eq_self
      rintro p hp
      exact .inl (List.mem_singleton.mp hp ▸ hknown)
    · rw [if_neg (by simp [hempty, hknown])]
      have hself : cleaned ≠ d.self := by
        intro heq
        apply hknown
        rw [heq, h.known_eq]
        exact List.mem_cons_self
      rw [Option.toList_some, addAll, List.foldl_cons, List.foldl_nil, add,
        if_pos (isNew_iff.mpr ⟨hself, hknown⟩)]

end Directory

namespace Server

variable {s : Server}

/-- A written exchange is acknowledged, and the server learns of the servers that it receives. -/
theorem process_exchange (s : Server) (files : FileSystem) (connector : Connector)
    (servers : List Peer) :
    s.process files connector (Request.exchange servers).render =
      { answer := .ok [.success]
        server := { s with directory :=
          s.directory.addAll (servers.filterMap Peer.received?) } } := by
  have hread : Call.read s.secret (Request.exchange servers).render =
      .ok (.exchange (servers.filterMap Peer.received?)) := by
    rw [Call.read_render_eq_check, Request.received, Request.check]
  rw [process_eq_conclude, begin?_of_read files hread, run, conclude]

/-- What a server makes of its own list, when it receives everybody else in it as he is. -/
theorem process_gossip {self : Peer} (hself : s.directory.self = self) (h : s.directory.Orderly)
    (hlearned : ∀ p ∈ s.directory.others, p.received? = some p) (files : FileSystem)
    (connector : Connector) :
    let d := s.directory
    let cleaned : Peer := ⟨Text.clean self.hostname, self.port⟩
    s.process files connector d.gossip =
      { answer := .ok [.success]
        server :=
          if cleaned.hostname = "" ∨ cleaned ∈ d.known then s
          else { s with directory := { d with known := d.known ++ [cleaned] } } } := by
  subst hself
  intro d cleaned
  have hheard : d.addAll (d.known.filterMap Peer.received?) = _ :=
    (Directory.addAll_received h hlearned).trans (Directory.addAll_cleaned h)
  rw [Directory.gossip, process_exchange, hheard]
  split <;> rfl

section Echo

variable {secret : String} {catalog : Catalog} {self : Peer} {turns : List Turn}

theorem orderly_after :
    ((Server.mk secret catalog (.start self)).after turns).directory.Orderly := by
  rw [directory_after]
  exact (Directory.orderly_start self).addAll _

theorem self_after :
    ((Server.mk secret catalog (.start self)).after turns).directory.self = self := by
  rw [directory_after, Directory.addAll_self]
  rfl

/-- Whoever a server has learned of is received again as he is. -/
theorem received?_of_mem_others {p : Peer}
    (h : p ∈ ((Server.mk secret catalog (.start self)).after turns).directory.others) :
    p.received? = some p := by
  obtain ⟨hknown, hother⟩ := List.mem_filter.mp h
  rw [self_after, bne_iff_ne] at hother
  obtain hself | ⟨⟨text, -, hspread⟩, -⟩ := mem_known_after.mp hknown
  · -- at first the server knows nobody else
    exact absurd (List.mem_singleton.mp hself) hother
  · exact Incoming.received?_eq_of_mem_spread hspread

end Echo

/-- When a server gets the exchange that it would send itself, it acknowledges it and, unless
nothing is left of its own hostname by cleaning, takes what is left for the hostname of a server: if
it does not know that one, it puts it behind the others. Nothing else changes. So a server is left
as it was by its own list, whatever requests came in before, if and only if cleaning leaves its
hostname alone or leaves nothing of it. -/
theorem echo_law (secret : String) (catalog : Catalog) (self : Peer) (files : FileSystem)
    (connector : Connector) :
    let cleaned : Peer := ⟨Text.clean self.hostname, self.port⟩
    let after := (Server.mk secret catalog (.start self)).after
    let echo (s : Server) := s.process files connector s.directory.gossip
    (∀ turns, echo (after turns) =
      { answer := .ok [.success]
        server :=
          let s := after turns
          let d := s.directory
          if cleaned.hostname = "" ∨ cleaned ∈ d.known then s
          else { s with directory := { d with known := d.known ++ [cleaned] } } }) ∧
    ((∀ turns, (echo (after turns)).server = after turns) ↔
      Text.IsClean self.hostname ∨ cleaned.hostname = "") := by
  intro cleaned after echo
  have hecho (turns : List Turn) : echo (after turns) = _ :=
    process_gossip self_after orderly_after (fun p => received?_of_mem_others) files connector
  refine ⟨hecho, fun hsame => ?_, fun hclean turns => ?_⟩
  · -- the server that knows only itself tells already
    by_contra hneither
    obtain ⟨hunclean, hpresent⟩ := not_or.mp hneither
    have hother : cleaned ≠ self := by
      intro heq
      apply hunclean
      rw [← congrArg Peer.hostname heq]
      exact Text.isClean_clean self.hostname
    have hnew : ¬ (cleaned.hostname = "" ∨ cleaned ∈ (after []).directory.known) := by
      rintro (hempty | hknown)
      · exact hpresent hempty
      · exact hother (List.mem_singleton.mp hknown)
    have hstart : (after []).directory.known ++ [cleaned] = (after []).directory.known := by
      have hserver := hsame []
      rw [hecho [], if_neg hnew] at hserver
      exact congrArg (fun s => s.directory.known) hserver
    simp at hstart
  · have hknown : cleaned.hostname = "" ∨ cleaned ∈ (after turns).directory.known := by
      refine hclean.symm.imp_right fun hclean => ?_
      have hsame : cleaned = self := congrArg (Peer.mk · self.port) (Text.clean_eq_self hclean)
      rw [hsame, orderly_after.known_eq, self_after]
      exact List.mem_cons_self
    rw [hecho turns, if_pos hknown]

/-- A server whose hostname begins with a blank lists itself as another server when it hears its own
list back, and it would gossip with that one from then on. -/
theorem echo_padded :
    let s := Server.start "s" ⟨" a", 1⟩
    let reply := s.process (fun _ => .directory) (fun _ _ => .crashed) s.directory.gossip
    s.directory.others = [] ∧ reply.server.directory.others = [⟨"a", 1⟩] ∧
      reply.server.directory.target? (fun _ => 0) = some ⟨"a", 1⟩ := by
  decide +kernel

end Server

end FederatedCatalog
