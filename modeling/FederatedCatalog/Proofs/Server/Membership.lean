import FederatedCatalog.Proofs.Server.Effects

/-!
# Known servers over time

Requests and gossip both change the list of known servers while others read it, and the order of a
relayed answer as well as the choice of a gossip partner rest on it. Whatever happens to a server,
its list begins with the server itself and names nobody twice, servers that stay keep their order,
and those that come are put last.

## Main definitions

* `Happening`, `Server.on` and `Server.during`: what may happen to the list of a server, and the
  server afterwards;
* `Directory.Orderly`: the keeper comes first and nobody is listed twice;
* `Directory.KeepsOrder`: what was known before stands in its old order in front of what is new.

## Main results

* `Server.directory_on`: what one happening does to the list;
* `Server.orderly_on` and `Server.orderly_during`: the list stays orderly;
* `Server.sublist_during`: two servers that stay keep their order over a whole run;
* `Server.membership_run`: all of this together, and whom a round of gossip turns to.
-/

namespace FederatedCatalog

namespace Directory

variable {d d' : Directory}

/-! ### The order of the list -/

/-- The keeper comes first, the others follow, and nobody is listed twice. -/
structure Orderly (d : Directory) : Prop where
  known_eq : d.known = d.self :: d.others
  known_nodup : d.known.Nodup

/-- What was known before and still is stands in its old order, and what is new comes behind it. -/
def KeepsOrder (d d' : Directory) : Prop :=
  ∃ new, d'.known = d.known.filter (· ∈ d'.known) ++ new ∧ ∀ p ∈ new, p ∉ d.known

/-- A list without repetition that begins with the keeper is orderly. -/
theorem Orderly.of_known (rest : List Peer) (h : d.known = d.self :: rest)
    (hnodup : d.known.Nodup) : d.Orderly := by
  have hself : d.self ∉ rest := by
    rw [h] at hnodup
    exact (List.nodup_cons.mp hnodup).1
  have hothers : d.others = rest := by
    rw [others, h, List.filter_cons_of_neg (by simp)]
    exact List.filter_eq_self.mpr fun p hp => bne_iff_ne.mpr fun heq => hself (heq ▸ hp)
  exact ⟨by rw [hothers, h], hnodup⟩

theorem orderly_start (self : Peer) : (start self).Orderly :=
  .of_known [] rfl (List.nodup_singleton self)

/-- Learning of servers keeps the list orderly. -/
theorem Orderly.addAll (h : d.Orderly) (ps : List Peer) : (d.addAll ps).Orderly := by
  obtain ⟨new, hknown, -⟩ := d.exists_known_addAll ps
  rw [h.known_eq] at hknown
  refine .of_known (d.others ++ new) ?_ (nodup_addAll h.known_nodup ps)
  rw [hknown, addAll_self]
  rfl

/-- Dropping a server keeps the list orderly. -/
theorem Orderly.remove (h : d.Orderly) (p : Peer) : (d.remove p).Orderly := by
  have hnodup := nodup_remove h.known_nodup p
  by_cases hp : p ∈ d.others
  · have hother : d.self ≠ p := fun heq => by simp [others, heq] at hp
    refine .of_known (d.others.erase p) ?_ hnodup
    rw [known_remove hp, remove_self, h.known_eq, List.erase_cons_tail (by simpa using hother)]
  · rw [remove_of_notMem hp]
    exact h

/-- Learning of servers puts them last. -/
theorem KeepsOrder.addAll (h : d.Orderly) (ps : List Peer) : d.KeepsOrder (d.addAll ps) := by
  obtain ⟨new, hknown, -⟩ := d.exists_known_addAll ps
  have hdisjoint := nodup_addAll h.known_nodup ps
  rw [hknown, List.nodup_append] at hdisjoint
  refine ⟨new, ?_, fun p hp hold => hdisjoint.2.2 p hold p hp rfl⟩
  rw [hknown]
  congr 1
  refine (List.filter_eq_self.mpr fun p hp => ?_).symm
  exact decide_eq_true (List.mem_append_left new hp)

/-- Dropping a server leaves the others in their order. -/
theorem KeepsOrder.remove (h : d.Orderly) (p : Peer) : d.KeepsOrder (d.remove p) := by
  refine ⟨[], ?_, fun q hq => absurd hq List.not_mem_nil⟩
  rw [List.append_nil]
  by_cases hp : p ∈ d.others
  · rw [known_remove hp, h.known_nodup.erase_eq_filter]
    refine List.filter_congr fun q hq => ?_
    rw [Bool.eq_iff_iff, decide_eq_true_iff, List.mem_filter]
    exact ⟨fun hne => ⟨hq, hne⟩, And.right⟩
  · rw [remove_of_notMem hp]
    exact (List.filter_eq_self.mpr fun q hq => decide_eq_true hq).symm

/-- Two servers that stay stand in their old order. -/
theorem KeepsOrder.sublist (h : d.KeepsOrder d') {p q : Peer} (hp : p ∈ d'.known)
    (hq : q ∈ d'.known) (hpq : [p, q].Sublist d.known) : [p, q].Sublist d'.known := by
  obtain ⟨new, hknown, -⟩ := h
  have hfiltered := hpq.filter (· ∈ d'.known)
  rw [List.filter_eq_self.mpr (by simp [hp, hq])] at hfiltered
  rw [hknown]
  exact hfiltered.trans (List.sublist_append_left _ new)

end Directory

/-! ### Runs -/

/-- What may happen to the list of a server. -/
inductive Happening where
  /-- A server is added. An exchange that others interrupt comes to several of these. -/
  | add (peer : Peer)
  /-- A server is removed, as it is at the end of a round of gossip that others interrupt. -/
  | remove (peer : Peer)
  /-- A request of any kind is processed, an exchange among others. -/
  | request (turn : Turn)
  /-- The server gossips. -/
  | gossip (selector : Nat → Nat) (connector : Connector)

namespace Server

/-- The server after a happening. -/
def on (s : Server) : Happening → Server
  | .add peer => { s with directory := s.directory.add peer }
  | .remove peer => { s with directory := s.directory.remove peer }
  | .request turn => (s.reply turn).server
  | .gossip selector connector =>
    { s with directory := (s.directory.exchangeRound selector connector).directory }

/-- The server after a run of happenings. -/
def during (s : Server) (happenings : List Happening) : Server := happenings.foldl on s

/-- Whatever happens, servers are learned one after the other, or one is dropped. -/
theorem directory_on (s : Server) (happening : Happening) :
    (∃ ps, (s.on happening).directory = s.directory.addAll ps) ∨
      ∃ p, (s.on happening).directory = s.directory.remove p := by
  cases happening with
  | add peer => exact .inl ⟨[peer], rfl⟩
  | remove peer => exact .inr ⟨peer, rfl⟩
  | request turn =>
    obtain ⟨servers, hdirectory, -⟩ := s.directory_reply turn
    exact .inl ⟨servers, hdirectory⟩
  | gossip selector connector =>
    rw [on, Directory.exchangeRound]
    split
    · exact .inl ⟨[], rfl⟩
    next peer _ =>
      obtain hsame | hdropped := s.directory.directory_conclude peer (connector peer _)
      · exact .inl ⟨[], hsame⟩
      · exact .inr ⟨peer, hdropped⟩

variable {s : Server}

theorem self_on (s : Server) (happening : Happening) :
    (s.on happening).directory.self = s.directory.self := by
  obtain ⟨ps, hdirectory⟩ | ⟨p, hdirectory⟩ := s.directory_on happening
  · rw [hdirectory, Directory.addAll_self]
  · rw [hdirectory, Directory.remove_self]

/-- Whatever happens, the list stays orderly. -/
theorem orderly_on (h : s.directory.Orderly) (happening : Happening) :
    (s.on happening).directory.Orderly := by
  obtain ⟨ps, hdirectory⟩ | ⟨p, hdirectory⟩ := s.directory_on happening
  · rw [hdirectory]
    exact h.addAll ps
  · rw [hdirectory]
    exact h.remove p

/-- Whatever happens, servers that stay keep their order and new ones come last. -/
theorem keepsOrder_on (h : s.directory.Orderly) (happening : Happening) :
    s.directory.KeepsOrder (s.on happening).directory := by
  obtain ⟨ps, hdirectory⟩ | ⟨p, hdirectory⟩ := s.directory_on happening
  · rw [hdirectory]
    exact .addAll h ps
  · rw [hdirectory]
    exact .remove h p

theorem self_during (s : Server) (happenings : List Happening) :
    (s.during happenings).directory.self = s.directory.self := by
  induction happenings generalizing s with
  | nil => rfl
  | cons happening happenings ih => exact (ih (s.on happening)).trans (s.self_on happening)

/-- The list stays orderly over a run. -/
theorem orderly_during (h : s.directory.Orderly) (happenings : List Happening) :
    (s.during happenings).directory.Orderly := by
  induction happenings generalizing s with
  | nil => exact h
  | cons happening happenings ih => exact ih (orderly_on h happening)

/-- Two servers that are known all through a run keep their order. -/
theorem sublist_during (h : s.directory.Orderly) {p q : Peer} (happenings : List Happening)
    (hstay : ∀ n, p ∈ (s.during (happenings.take n)).directory.known ∧
      q ∈ (s.during (happenings.take n)).directory.known)
    (hpq : [p, q].Sublist s.directory.known) :
    [p, q].Sublist (s.during happenings).directory.known := by
  induction happenings generalizing s with
  | nil => exact hpq
  | cons happening happenings ih =>
    have hfirst : [p, q].Sublist (s.on happening).directory.known :=
      (keepsOrder_on h happening).sublist (hstay 1).1 (hstay 1).2 hpq
    exact ih (orderly_on h happening) (fun n => hstay (n + 1)) hfirst

end Server

/-! ### Single changes -/

namespace Directory

variable {d : Directory} {p : Peer}

/-- A server that is new is put last. -/
theorem Orderly.known_add (h : d.Orderly) (hp : p ∉ d.known) :
    (d.add p).known = d.known ++ [p] := by
  have hself : p ≠ d.self := by
    rintro rfl
    exact hp (h.known_eq ▸ List.mem_cons_self)
  rw [add, if_pos (isNew_iff.mpr ⟨hself, hp⟩)]

/-- A server that is dropped and learned of again is put last. -/
theorem Orderly.known_add_remove (h : d.Orderly) (hp : p ∈ d.others) :
    ((d.remove p).add p).known = d.known.erase p ++ [p] := by
  rw [(h.remove p).known_add (notMem_remove h.known_nodup hp), known_remove hp]

/-- A round of gossip turns to one of the others, if there are any, whatever index is selected. -/
theorem target?_cases (d : Directory) (selector : Nat → Nat) :
    d.others = [] ∧ d.target? selector = none ∨
      ∃ peer ∈ d.others, d.target? selector = some peer := by
  by_cases hothers : d.others = []
  · exact .inl ⟨hothers, by rw [target?, hothers]; rfl⟩
  · -- an index that is too large is cut down to the last one
    have hlength : min (selector d.others.length) (d.others.length - 1) < d.others.length := by
      have hpositive := List.length_pos_iff.mpr hothers
      omega
    exact .inr ⟨_, List.getElem_mem hlength, List.getElem?_eq_getElem hlength⟩

/-- A round of gossip sends the whole list to the server that it turns to, whatever comes of it. -/
theorem sent_exchangeRound {selector : Nat → Nat} (connector : Connector) {peer : Peer}
    (h : d.target? selector = some peer) :
    (d.exchangeRound selector connector).sent = [⟨peer, (Request.exchange d.known).render⟩] := by
  rw [exchangeRound, h]
  show (d.conclude peer _).sent = _
  rw [conclude]
  split
  · rfl
  · split <;> rfl

end Directory

/-- Whatever happens to a server that knew only itself, its list begins with the server, goes on
with the others and names nobody twice. What happens next keeps the order of those who stay and puts
new ones last, and so over any longer run; a server that is dropped and learned of again counts as
new. A round of gossip turns to nobody if there are no others, and otherwise sends the whole list to
one of them, whatever index is selected. -/
theorem Server.membership_run (secret : String) (catalog : Catalog) (self : Peer)
    (happenings : List Happening) :
    let s := (Server.mk secret catalog (.start self)).during happenings
    let d := s.directory
    (d.known = self :: d.others ∧ d.known.Nodup) ∧
    (∀ happening, d.KeepsOrder (s.on happening).directory) ∧
    (∀ later p q,
      (∀ n, p ∈ (s.during (later.take n)).directory.known ∧
        q ∈ (s.during (later.take n)).directory.known) →
      [p, q].Sublist d.known → [p, q].Sublist (s.during later).directory.known) ∧
    (∀ p ∉ d.known, (d.add p).known = d.known ++ [p]) ∧
    (∀ p ∈ d.others, ((d.remove p).add p).known = d.known.erase p ++ [p]) ∧
    ∀ selector,
      (d.others = [] ∧ d.target? selector = none ∧
        ∀ connector, (d.exchangeRound selector connector).sent = []) ∨
      ∃ peer ∈ d.others, d.target? selector = some peer ∧
        ∀ connector, (d.exchangeRound selector connector).sent =
          [⟨peer, (Request.exchange d.known).render⟩] := by
  intro s d
  have horderly : d.Orderly := orderly_during (Directory.orderly_start self) happenings
  have hself : d.self = self := self_during _ happenings
  refine ⟨⟨?_, horderly.known_nodup⟩, fun happening => keepsOrder_on horderly happening,
    fun later p q hstay hpq => sublist_during horderly later hstay hpq,
    fun p hp => horderly.known_add hp, fun p hp => horderly.known_add_remove hp,
    fun selector => ?_⟩
  · rw [← hself]
    exact horderly.known_eq
  · obtain ⟨hothers, htarget⟩ | ⟨peer, hpeer, htarget⟩ := d.target?_cases selector
    · exact .inl ⟨hothers, htarget, fun connector => by rw [Directory.exchangeRound, htarget]⟩
    · exact .inr ⟨peer, hpeer, htarget, fun connector => d.sent_exchangeRound connector htarget⟩

end FederatedCatalog
