import FederatedCatalog.Server.Gossip
import Mathlib.Data.List.Nodup

/-!
# Directories over time

Whatever a server learns or drops, and however its gossip goes, the keeper of its directory stays
and no server is listed twice.

## Main results

* `Directory.addAll_self`, `Directory.known_addAll` and `Directory.nodup_addAll`: learning of
  servers;
* `Directory.directory_conclude`, `Directory.conclude_self` and `Directory.nodup_conclude`: a round
  of gossip.
-/

namespace FederatedCatalog.Directory

/-! ### Learning -/

theorem add_self (d : Directory) (p : Peer) : (d.add p).self = d.self := by
  unfold add
  split <;> rfl

/-- Learning of servers does not change the keeper. -/
theorem addAll_self (d : Directory) (ps : List Peer) : (d.addAll ps).self = d.self := by
  induction ps generalizing d with
  | nil => rfl
  | cons p ps ih => exact (ih (d.add p)).trans (d.add_self p)

theorem isNew_iff {d : Directory} {p : Peer} : d.isNew p = true ↔ p ≠ d.self ∧ p ∉ d.known := by
  rw [isNew, holds, Bool.and_eq_true, bne_iff_ne, Bool.not_eq_true', ← Bool.not_eq_true,
    List.contains_iff_mem]

theorem nodup_add {d : Directory} (h : d.known.Nodup) (p : Peer) : (d.add p).known.Nodup := by
  unfold add
  split
  next hnew =>
    -- only a server that is not held yet is appended
    rw [← List.concat_eq_append]
    exact List.Nodup.concat (isNew_iff.mp hnew).2 h
  next => exact h

/-- Learning of servers lists no server twice. -/
theorem nodup_addAll {d : Directory} (h : d.known.Nodup) (ps : List Peer) :
    (d.addAll ps).known.Nodup := by
  induction ps generalizing d with
  | nil => exact h
  | cons p ps ih => exact ih (nodup_add h p)

theorem addAll_append (d : Directory) (ps qs : List Peer) :
    d.addAll (ps ++ qs) = (d.addAll ps).addAll qs := List.foldl_append

/-- Servers that are new come last, in their order. -/
theorem exists_known_addAll (d : Directory) (ps : List Peer) :
    ∃ new, (d.addAll ps).known = d.known ++ new ∧ new.Sublist ps := by
  induction ps generalizing d with
  | nil => exact ⟨[], (List.append_nil _).symm, .slnil⟩
  | cons p ps ih =>
    obtain ⟨new, hknown, hsublist⟩ := ih (d.add p)
    have hfold : d.addAll (p :: ps) = (d.add p).addAll ps := rfl
    rw [hfold, hknown, add]
    split
    · refine ⟨p :: new, ?_, hsublist.cons_cons p⟩
      rw [List.append_assoc]
      rfl
    · exact ⟨new, rfl, hsublist.cons p⟩

/-- The servers that are new are appended in their order, each of them once. -/
theorem known_addAll (d : Directory) (ps : List Peer) :
    (d.addAll ps).known = d.known ++ (ps.filter fun p => p ∉ d.known ∧ p ≠ d.self).eraseDups := by
  induction ps generalizing d with
  | nil => exact (List.append_nil _).symm
  | cons p ps ih =>
    have hfold : d.addAll (p :: ps) = (d.add p).addAll ps := rfl
    rw [hfold, ih (d.add p), add_self]
    by_cases hnew : p ∉ d.known ∧ p ≠ d.self
    · -- what comes behind `p` is new only if it is not `p` again
      have hknown : (d.add p).known = d.known ++ [p] := by
        rw [add, if_pos (isNew_iff.mpr hnew.symm)]
      have hrest : (ps.filter fun q => q ∉ d.known ++ [p] ∧ q ≠ d.self) =
          (ps.filter fun q => q ∉ d.known ∧ q ≠ d.self).filter fun q => !q == p := by
        rw [List.filter_filter]
        apply List.filter_congr
        intro q _
        by_cases hq : q = p <;> simp [hq]
      rw [hknown, hrest, List.filter_cons_of_pos (by simpa using hnew), List.eraseDups_cons,
        List.append_assoc]
      rfl
    · have hsame : d.add p = d := by
        rw [add, if_neg fun h => hnew (isNew_iff.mp h).symm]
      rw [hsame, List.filter_cons_of_neg (by simpa using hnew)]

/-- Whom a server knows after learning of servers: whom it knew, and those, apart from itself. -/
theorem mem_known_addAll {d : Directory} {ps : List Peer} {p : Peer} :
    p ∈ (d.addAll ps).known ↔ p ∈ d.known ∨ p ∈ ps ∧ p ≠ d.self := by
  rw [known_addAll, List.mem_append, List.mem_eraseDups, List.mem_filter, decide_eq_true_iff]
  tauto

theorem addAll_eq (d : Directory) (ps : List Peer) :
    d.addAll ps =
      ⟨d.self, d.known ++ (ps.filter fun p => p ∉ d.known ∧ p ≠ d.self).eraseDups⟩ := by
  calc d.addAll ps
      = ⟨(d.addAll ps).self, (d.addAll ps).known⟩ := rfl
    _ = _ := by rw [addAll_self, known_addAll]

/-- Learning of servers that are known, or of the keeper, changes nothing. -/
theorem addAll_eq_self {d : Directory} {ps : List Peer} (h : ∀ p ∈ ps, p ∈ d.known ∨ p = d.self) :
    d.addAll ps = d := by
  have hnone : (ps.filter fun p => p ∉ d.known ∧ p ≠ d.self) = [] := by
    apply List.filter_eq_nil_iff.mpr
    intro p hp
    simpa [or_iff_not_imp_left] using h p hp
  rw [addAll_eq, hnone, List.eraseDups_nil, List.append_nil]

/-- Learning of the same servers again changes nothing. -/
theorem addAll_addAll_self (d : Directory) (ps : List Peer) :
    (d.addAll ps).addAll ps = d.addAll ps := by
  apply addAll_eq_self
  intro p hp
  by_cases hself : p = d.self
  · exact .inr (hself.trans (d.addAll_self ps).symm)
  · exact .inl (mem_known_addAll.mpr (.inr ⟨hp, hself⟩))

/-! ### Dropping and gossip -/

/-- The peer of a round is another server that is known. -/
theorem mem_others_of_target? {d : Directory} {selector : Nat → Nat} {peer : Peer}
    (h : d.target? selector = some peer) : peer ∈ d.others := List.mem_of_getElem? h

/-- The others are the servers that can be removed. -/
theorem isRemovable_iff {d : Directory} {p : Peer} : d.isRemovable p = true ↔ p ∈ d.others := by
  rw [isRemovable, holds, others, List.mem_filter, Bool.and_eq_true, List.contains_iff_mem,
    and_comm]

theorem known_remove {d : Directory} {p : Peer} (h : p ∈ d.others) :
    (d.remove p).known = d.known.erase p := by
  rw [remove, if_pos (isRemovable_iff.mpr h)]

/-- Nobody but the others is ever removed. -/
theorem remove_of_notMem {d : Directory} {p : Peer} (h : p ∉ d.others) : d.remove p = d := by
  rw [remove, if_neg (isRemovable_iff.not.mpr h)]

/-- A server that is dropped is not known any more. -/
theorem notMem_remove {d : Directory} (h : d.known.Nodup) {peer : Peer} (hpeer : peer ∈ d.others) :
    peer ∉ (d.remove peer).known := by
  rw [known_remove hpeer]
  exact h.not_mem_erase

theorem remove_self (d : Directory) (p : Peer) : (d.remove p).self = d.self := by
  unfold remove
  split <;> rfl

theorem nodup_remove {d : Directory} (h : d.known.Nodup) (p : Peer) :
    (d.remove p).known.Nodup := by
  unfold remove
  split
  · exact h.erase p
  · exact h

theorem known_remove_subset (d : Directory) (p : Peer) : (d.remove p).known ⊆ d.known := by
  by_cases hp : p ∈ d.others
  · rw [known_remove hp]
    exact List.erase_subset
  · rw [remove_of_notMem hp]
    exact List.Subset.refl _

/-- A round of gossip drops the peer or changes nothing. -/
theorem directory_conclude (d : Directory) (peer : Peer) (answer : PeerAnswer) :
    (d.conclude peer answer).directory = d ∨
      (d.conclude peer answer).directory = d.remove peer := by
  unfold conclude
  split
  · exact .inl rfl
  · split
    · exact .inl rfl
    · exact .inr rfl

/-- A round of gossip does not change the keeper. -/
theorem conclude_self (d : Directory) (peer : Peer) (answer : PeerAnswer) :
    (d.conclude peer answer).directory.self = d.self := by
  obtain hsame | hdropped := d.directory_conclude peer answer
  · rw [hsame]
  · rw [hdropped, remove_self]

/-- A round of gossip adds nobody. -/
theorem known_conclude_subset (d : Directory) (peer : Peer) (answer : PeerAnswer) :
    (d.conclude peer answer).directory.known ⊆ d.known := by
  obtain hsame | hdropped := d.directory_conclude peer answer
  · rw [hsame]
    exact List.Subset.refl _
  · rw [hdropped]
    exact d.known_remove_subset peer

/-- A round of gossip lists no server twice. -/
theorem nodup_conclude {d : Directory} (h : d.known.Nodup) (peer : Peer) (answer : PeerAnswer) :
    (d.conclude peer answer).directory.known.Nodup := by
  obtain hsame | hdropped := d.directory_conclude peer answer
  · rw [hsame]
    exact h
  · rw [hdropped]
    exact nodup_remove h peer

end FederatedCatalog.Directory
