import FederatedCatalog.Proofs.Message.Reading
import FederatedCatalog.Proofs.Peer.Directory
import FederatedCatalog.Proofs.Resource.Extent
import Mathlib.Algebra.Order.BigOperators.Group.List

/-!
# How long the text of a list of servers is

A server gossips its list in the form in which other servers read it, one entry for each server. An
entry that was read from a request is written out again in no more bytes than it took there, so the
list never grows by more than what was read.

## Main definitions

* `Peer.entrySize`: the bytes of an entry in a list of servers.

## Main results

* `Peer.entrySize_le_of_ofJson?` and `Peer.sum_entrySize_le`: entries take no more bytes than what
  they were read from;
* `Directory.utf8ByteSize_gossip`: the bytes of a request that gossips;
* `Directory.gossip_addAll_le`: what learning of servers adds to it.
-/

namespace FederatedCatalog

open Json
open String (utf8Len)

/-! ### Entries -/

/-- Only an integer that fits 64 bits reads as a natural number. -/
theorem Json.eq_ofNat_of_natural? {v : Json} {n : UInt64} (h : v.natural? = some n) :
    v = .ofNat n.toNat := by
  unfold natural? at h
  split at h
  next k =>
    split at h
    next hrange =>
      obtain ⟨k, rfl⟩ := Int.eq_ofNat_of_zero_le hrange.1
      obtain rfl := Option.some.inj h
      have hk : k < UInt64.size := Int.ofNat_lt.mp hrange.2
      rw [ofNat, UInt64.toNat_ofNat', Int.toNat_natCast, Nat.mod_eq_of_lt hk]
    next => cases h
  next => cases h

theorem Json.extent_ofNat (n : Nat) : extent (.ofNat n) = utf8Len (natChars n) := by
  rw [ofNat, extent]
  rfl

namespace Peer

/-- The bytes of an entry in a list of servers. Keys and punctuation take 21. -/
def entrySize (p : Peer) : Nat := 21 + quotedSize p.hostname + utf8Len (natChars p.port.toNat)

theorem utf8Len_chars_toJson (p : Peer) : utf8Len (chars p.toJson) = p.entrySize := by
  have hkeys : quotedSize "hostname" = 10 ∧ quotedSize "port" = 6 := by decide +kernel
  have hstring : utf8Len (chars (.string p.hostname)) = quotedSize p.hostname := by
    rw [chars, quotedSize]
  have hnumber : utf8Len (chars (.ofNat p.port.toNat)) = utf8Len (natChars p.port.toNat) := by
    rw [ofNat, chars, Number.chars]
    rfl
  rw [toJson, utf8Len_chars_object, listSize, entrySize]
  simp only [List.map_cons, List.map_nil, List.sum_cons, List.sum_nil, utf8Len_memberText, hkeys,
    hstring, hnumber]
  omega

/-- An entry takes no more bytes than what it was read from. -/
theorem entrySize_le_of_ofJson? {v : Json} {p : Peer} (h : ofJson? v = some p) :
    p.entrySize ≤ extent v := by
  obtain ⟨hostname, n, hhostname, hport, hrange, rfl⟩ := exists_members_of_ofJson? h
  obtain ⟨number, hnumber, hn⟩ := Option.bind_eq_some_iff.mp hport
  obtain rfl := eq_ofNat_of_natural? hn
  have hkeys : ["hostname", "port"].Nodup := by decide
  have hsum := sum_costOf_le hkeys v
  have hnames : quotedSize "hostname" = 10 ∧ quotedSize "port" = 6 := by decide +kernel
  have hclean := Resource.quotedSize_clean_le hostname
  have hnarrow : (UInt16.ofNat n.toNat).toNat = n.toNat := by
    rw [UInt16.toNat_ofNat', Nat.mod_eq_of_lt hrange]
  simp only [List.map_cons, List.map_nil, List.sum_cons, List.sum_nil, hhostname, hnumber, costOf,
    memberExtent, extent, extent_ofNat, hnames] at hsum
  simp only [entrySize, hnarrow]
  omega

/-- The servers that are read from a list take no more bytes than the list. -/
theorem sum_entrySize_le (entries : List Json) :
    ((entries.filterMap ofJson?).map fun p => p.entrySize + 1).sum ≤
      (entries.map fun v => extent v + 1).sum := by
  induction entries with
  | nil => exact Nat.le_refl 0
  | cons v entries ih =>
    rw [List.map_cons, List.sum_cons]
    cases hread : ofJson? v with
    | none =>
      rw [List.filterMap_cons_none hread]
      omega
    | some p =>
      have hentry := entrySize_le_of_ofJson? hread
      rw [List.filterMap_cons_some hread, List.map_cons, List.sum_cons]
      omega

end Peer

/-! ### Lists -/

namespace Directory

/-- The bytes of a request that gossips a list of servers. -/
theorem utf8ByteSize_gossip (d : Directory) :
    d.gossip.utf8ByteSize = 37 + listSize Peer.entrySize d.known := by
  have hkeys : quotedSize "command" = 9 ∧ quotedSize "serverList" = 12 ∧
      utf8Len (chars (.string Command.exchange.name)) = 10 := by
    decide +kernel
  have hentries : listSize (fun v => utf8Len (chars v)) (d.known.map Peer.toJson) =
      listSize Peer.entrySize d.known := by
    rw [listSize, listSize, List.map_map]
    simp only [Function.comp_def, Peer.utf8Len_chars_toJson]
  rw [gossip, Request.render, Json.render, String.utf8ByteSize_ofList, Request.toJson,
    utf8Len_chars_object, listSize]
  simp only [Request.arguments, Request.command, List.map_cons, List.map_nil, List.sum_cons,
    List.sum_nil, utf8Len_memberText, utf8Len_chars_array, hentries, hkeys]
  omega

/-- Learning of servers adds at most the bytes of their entries to what is gossiped. -/
theorem gossip_addAll_le (d : Directory) (ps : List Peer) :
    (d.addAll ps).gossip.utf8ByteSize ≤
      d.gossip.utf8ByteSize + (ps.map fun p => p.entrySize + 1).sum := by
  obtain ⟨new, hknown, hsublist⟩ := d.exists_known_addAll ps
  have hnew : (new.map fun p => p.entrySize + 1).sum ≤ (ps.map fun p => p.entrySize + 1).sum := by
    refine (hsublist.map _).sum_le_sum ?_
    exact fun _ _ => Nat.zero_le _
  rw [utf8ByteSize_gossip, utf8ByteSize_gossip, hknown, listSize, listSize, List.map_append,
    List.sum_append]
  omega

end Directory

end FederatedCatalog
