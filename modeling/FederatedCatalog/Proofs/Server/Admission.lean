import FederatedCatalog.Server.Admission
import Mathlib.Data.Finset.Card
import Mathlib.Data.Finset.Dedup

/-!
# Admission over time

A limiter forgets. Of an address it keeps only the last admission, and addresses whose last
admission is an interval old are dropped when it is told to, or when the table grows beyond its
bound. None of this can be noticed: a connection is admitted exactly if no connection of the same
address was admitted within the interval before it, as if every admission had been written down. The
table can grow beyond its bound all the same, but then it holds nothing except addresses that still
count.

## Main definitions

* `Limiter.Action`, `Limiter.after` and `Limiter.admitted`: what a limiter is asked to do, the
  limiter after a run, and the connections that the run admits;
* `Limiter.Recalls`: the limiter remembers what still matters of a history of admissions;
* `Limiter.live`: the addresses of a history that still count.

## Main results

* `Limiter.Recalls.admits_iff`: a limiter that recalls a history decides as the history does;
* `Limiter.Recalls.on` and `Limiter.Recalls.after`: every action and every run keeps that;
* `Limiter.admission_run`: what decides on a connection, and what does not;
* `Limiter.Compact.arrive` and `Limiter.compact_after`: a table that is larger than its bound holds
  the addresses that still count and no others;
* `Limiter.tracked_run`: how large the table is after a run;
* `Limiter.crowd_exceeds_maxTracked`: addresses that all still count make it larger than its bound.
-/

namespace FederatedCatalog.Limiter

/-! ### Runs -/

/-- A connection: the address it comes from, and when it comes in. -/
abbrev Arrival := IpAddress × Int64

/-- What a limiter may be asked to do. -/
inductive Action where
  /-- A connection from an address is to be decided on. -/
  | arrive (source : IpAddress) (now : Int64)
  /-- Stale addresses are to be forgotten. -/
  | prune (now : Int64)
  deriving Repr, DecidableEq

/-- When an action takes place. -/
def Action.time : Action → Int64
  | arrive _ now => now
  | prune now => now

/-- The action that decides on a connection. -/
def Action.ofArrival (arrival : Arrival) : Action := arrive arrival.1 arrival.2

/-- Times that are not negative and never go back. -/
def Chronological (times : List Int64) : Prop := (0 :: times).Pairwise (· ≤ ·)

instance (times : List Int64) : Decidable (Chronological times) :=
  inferInstanceAs (Decidable (List.Pairwise _ _))

/-- The limiter after an action. -/
def on (l : Limiter) : Action → Limiter
  | .arrive source now => (l.arrive source now).2
  | .prune now => l.prune now

/-- The connection that an action admits, if it admits one. -/
def grants (l : Limiter) : Action → List Arrival
  | .arrive source now => if (l.arrive source now).1 then [(source, now)] else []
  | .prune _ => []

/-- The limiter after a run of actions. -/
def after (l : Limiter) (actions : List Action) : Limiter := actions.foldl on l

/-- The connections that a run of actions admits, in their order. -/
def admitted (l : Limiter) : List Action → List Arrival
  | [] => []
  | action :: actions => l.grants action ++ (l.on action).admitted actions

variable {l : Limiter} {history : List Arrival} {source : IpAddress} {now : Int64}

theorem after_append (l : Limiter) (earlier later : List Action) :
    l.after (earlier ++ later) = (l.after earlier).after later := List.foldl_append

theorem admitted_append (l : Limiter) (earlier later : List Action) :
    l.admitted (earlier ++ later) = l.admitted earlier ++ (l.after earlier).admitted later := by
  induction earlier generalizing l with
  | nil => rfl
  | cons action earlier ih =>
    rw [List.cons_append, admitted, ih, admitted, List.append_assoc]
    rfl

/-! ### The interval -/

/-- The limiter with an admission written down. -/
def noting (l : Limiter) (source : IpAddress) (now : Int64) : Limiter :=
  { l with lastSeen := l.lastSeen.insert source now }

/-- An admission is written down before anything is forgotten. -/
theorem record_eq (l : Limiter) (source : IpAddress) (now : Int64) :
    l.record source now =
      if maxTracked < (l.noting source now).size then (l.noting source now).prune now
      else l.noting source now := rfl

theorem interval_record (l : Limiter) (source : IpAddress) (now : Int64) :
    (l.record source now).interval = l.interval := by
  rw [record_eq]
  split <;> rfl

theorem interval_on (l : Limiter) (action : Action) : (l.on action).interval = l.interval := by
  cases action with
  | arrive source now =>
    rw [on, arrive]
    split
    · exact l.interval_record source now
    · rfl
  | prune now => rfl

/-- No run changes the interval. -/
theorem interval_after (l : Limiter) (actions : List Action) :
    (l.after actions).interval = l.interval := by
  induction actions generalizing l with
  | nil => rfl
  | cons action actions ih => exact (ih (l.on action)).trans (l.interval_on action)

/-- An interval is cut down to what 63 bits hold. -/
theorem toInt_interval_ofMillis (n : Nat) :
    (ofMillis n).interval.toInt = (min n maxInterval : Nat) := by
  have hmax : maxInterval < 2 ^ 63 := by decide
  exact Int64.toInt_ofNat_of_lt (Nat.lt_of_le_of_lt (Nat.min_le_right n maxInterval) hmax)

/-- What it means that an admission still counts, whichever of the times comes first. Neither of
them is negative, so their difference fits 64 bits. -/
theorem isRecent_iff_of_nonneg (l : Limiter) {u : Int64} (hu : 0 ≤ u) (hnow : 0 ≤ now) :
    l.isRecent u now = true ↔ now.toInt - u.toInt < l.interval.toInt := by
  have hu' : 0 ≤ u.toInt := Int64.le_iff_toInt_le.mp hu
  have hnow' : 0 ≤ now.toInt := Int64.le_iff_toInt_le.mp hnow
  have hdifference : (now - u).toInt = now.toInt - u.toInt := by
    have hu_lt := u.toInt_lt
    have hnow_lt := now.toInt_lt
    rw [Int64.toInt_sub]
    apply Int.bmod_eq_of_le <;> omega
  rw [isRecent, decide_eq_true_iff, Int64.lt_iff_toInt_lt, hdifference]

/-- What it means that an admission still counts, for times that are in order. -/
theorem isRecent_iff (l : Limiter) {u : Int64} (hu : 0 ≤ u) (h : u ≤ now) :
    l.isRecent u now = true ↔ now.toInt - u.toInt < l.interval.toInt :=
  l.isRecent_iff_of_nonneg hu (Int64.le_trans hu h)

/-- If an admission still counts, then a later one of the past counted at any time before. -/
theorem isRecent_of_le (l : Limiter) {u v t : Int64} (hu : 0 ≤ u) (huv : u ≤ v) (hv : v ≤ now)
    (ht : now ≤ t) (h : l.isRecent u t = true) : l.isRecent v now = true := by
  have hut := (l.isRecent_iff hu (Int64.le_trans huv (Int64.le_trans hv ht))).mp h
  refine (l.isRecent_iff (Int64.le_trans hu huv) hv).mpr ?_
  have huv' := Int64.le_iff_toInt_le.mp huv
  have ht' := Int64.le_iff_toInt_le.mp ht
  omega

/-! ### Forgetting -/

/-- The limiter remembers what still matters, at a time, of a history of admissions: the last
admission of an address, unless the address is forgotten because its admissions do not count any
more. -/
structure Recalls (l : Limiter) (history : List Arrival) (now : Int64) : Prop where
  mem_of_get : ∀ source last, l.lastSeen[source]? = some last → (source, last) ∈ history
  le_of_get : ∀ source last u,
    l.lastSeen[source]? = some last → (source, u) ∈ history → u ≤ last
  stale_of_forgotten : ∀ source u,
    l.lastSeen[source]? = none → (source, u) ∈ history → l.isRecent u now = false
  nonneg : ∀ source u, (source, u) ∈ history → 0 ≤ u
  le_now : ∀ source u, (source, u) ∈ history → u ≤ now

theorem recalls_ofMillis (n : Nat) (now : Int64) : (ofMillis n).Recalls [] now where
  mem_of_get source last h := by simp [ofMillis] at h
  le_of_get source last u h := nofun
  stale_of_forgotten source u h := nofun
  nonneg source u := nofun
  le_now source u := nofun

theorem getElem?_prune (l : Limiter) (now : Int64) (source : IpAddress) :
    (l.prune now).lastSeen[source]? =
      l.lastSeen[source]?.filter fun last => l.isRecent last now := by
  rw [prune, Std.HashMap.getElem?_filter, Option.pfilter_eq_filter]

/-- A limiter that recalls a history admits a connection exactly if no admission of its address
counts any more. -/
theorem Recalls.admits_iff (h : l.Recalls history now) (source : IpAddress) :
    l.admits source now = true ↔ ∀ u, (source, u) ∈ history → l.isRecent u now = false := by
  rw [admits]
  cases hget : l.lastSeen[source]? with
  | none => exact ⟨fun _ u hu => h.stale_of_forgotten source u hget hu, fun _ => rfl⟩
  | some last =>
    have hlast := h.mem_of_get source last hget
    rw [Bool.not_eq_true']
    refine ⟨fun hstale u hu => ?_, fun hall => hall last hlast⟩
    -- earlier admissions of the address count no longer than its last one
    rw [Bool.eq_false_iff] at hstale ⊢
    exact fun hrecent => hstale (l.isRecent_of_le (h.nonneg source u hu)
      (h.le_of_get source last u hget hu) (h.le_now source last hlast) (Int64.le_refl now) hrecent)

/-- What is recalled at a time is recalled later. -/
theorem Recalls.later (h : l.Recalls history now) {t : Int64} (ht : now ≤ t) :
    l.Recalls history t where
  mem_of_get := h.mem_of_get
  le_of_get := h.le_of_get
  stale_of_forgotten source u hget hu := by
    have hstale := h.stale_of_forgotten source u hget hu
    rw [Bool.eq_false_iff] at hstale ⊢
    exact fun hrecent => hstale (l.isRecent_of_le (h.nonneg source u hu) (Int64.le_refl u)
      (h.le_now source u hu) ht hrecent)
  nonneg := h.nonneg
  le_now source u hu := Int64.le_trans (h.le_now source u hu) ht

/-- Forgetting stale addresses loses nothing that matters. -/
theorem Recalls.prune (h : l.Recalls history now) : (l.prune now).Recalls history now where
  mem_of_get source last hget := by
    rw [getElem?_prune, Option.filter_eq_some_iff] at hget
    exact h.mem_of_get source last hget.1
  le_of_get source last u hget hu := by
    rw [getElem?_prune, Option.filter_eq_some_iff] at hget
    exact h.le_of_get source last u hget.1 hu
  stale_of_forgotten source u hget hu := by
    show l.isRecent u now = false
    cases hold : l.lastSeen[source]? with
    | none => exact h.stale_of_forgotten source u hold hu
    | some last =>
      -- the address was dropped because its last admission is stale
      have hstale : l.isRecent last now = false := by
        rw [getElem?_prune, hold, Option.filter_eq_none_iff] at hget
        exact Bool.eq_false_iff.mpr (hget last rfl)
      rw [Bool.eq_false_iff] at hstale ⊢
      exact fun hrecent => hstale (l.isRecent_of_le (h.nonneg source u hu)
        (h.le_of_get source last u hold hu)
        (h.le_now source last (h.mem_of_get source last hold)) (Int64.le_refl now) hrecent)
  nonneg := h.nonneg
  le_now := h.le_now

/-- Writing an admission down keeps all the others. -/
theorem Recalls.noting (h : l.Recalls history now) (hnow : 0 ≤ now) (source : IpAddress) :
    (l.noting source now).Recalls (history ++ [(source, now)]) now := by
  have hget (other : IpAddress) : (l.noting source now).lastSeen[other]? =
      if source == other then some now else l.lastSeen[other]? := Std.HashMap.getElem?_insert
  have hmem (other : IpAddress) (u : Int64) : (other, u) ∈ history ++ [(source, now)] ↔
      (other, u) ∈ history ∨ other = source ∧ u = now := by
    rw [List.mem_append, List.mem_singleton, Prod.mk.injEq]
  refine ⟨fun other last hlast => ?_, fun other last u hlast hu => ?_,
    fun other u hnone hu => ?_, fun other u hu => ?_, fun other u hu => ?_⟩
  · rw [hmem]
    rw [hget] at hlast
    split at hlast
    next heq => exact .inr ⟨(eq_of_beq heq).symm, (Option.some.inj hlast).symm⟩
    next => exact .inl (h.mem_of_get other last hlast)
  · rw [hmem] at hu
    rw [hget] at hlast
    split at hlast
    next =>
      obtain rfl := Option.some.inj hlast
      obtain hold | ⟨-, rfl⟩ := hu
      · exact h.le_now other u hold
      · exact Int64.le_refl u
    next hne =>
      obtain hold | ⟨rfl, -⟩ := hu
      · exact h.le_of_get other last u hlast hold
      · exact absurd (beq_self_eq_true other) hne
  · rw [hmem] at hu
    rw [hget] at hnone
    split at hnone
    next => cases hnone
    next hne =>
      obtain hold | ⟨rfl, -⟩ := hu
      · exact h.stale_of_forgotten other u hnone hold
      · exact absurd (beq_self_eq_true other) hne
  · obtain hold | ⟨-, rfl⟩ := (hmem other u).mp hu
    · exact h.nonneg other u hold
    · exact hnow
  · obtain hold | ⟨-, rfl⟩ := (hmem other u).mp hu
    · exact h.le_now other u hold
    · exact Int64.le_refl u

/-! ### Decisions -/

theorem mem_grants_iff {action : Action} {u : Int64} :
    (source, u) ∈ l.grants action ↔ action = .arrive source u ∧ l.admits source u = true := by
  cases action with
  | arrive other now =>
    rw [grants, arrive]
    by_cases hadmits : l.admits other now
    · simp only [if_pos hadmits, if_true, List.mem_singleton, Prod.mk.injEq, Action.arrive.injEq]
      refine ⟨?_, ?_⟩
      · rintro ⟨rfl, rfl⟩
        exact ⟨⟨rfl, rfl⟩, hadmits⟩
      · rintro ⟨⟨rfl, rfl⟩, -⟩
        exact ⟨rfl, rfl⟩
    · simp only [if_neg hadmits, Bool.false_eq_true, if_false, List.not_mem_nil, false_iff]
      rintro ⟨heq, hadmits'⟩
      cases heq
      exact hadmits hadmits'
  | prune now => exact ⟨nofun, nofun⟩

/-- Every action keeps what matters of the history, to which it adds what it admits. -/
theorem Recalls.on (action : Action) (h : l.Recalls history action.time)
    (htime : 0 ≤ action.time) :
    (l.on action).Recalls (history ++ l.grants action) action.time := by
  cases action with
  | prune now =>
    rw [grants, List.append_nil]
    exact Recalls.prune h
  | arrive source now =>
    rw [Limiter.on, grants, arrive]
    split
    next =>
      have hnoting := Recalls.noting h htime source
      rw [record_eq]
      split
      · exact hnoting.prune
      · exact hnoting
    next =>
      -- a connection that is turned away leaves no trace
      rw [if_neg Bool.false_ne_true, List.append_nil]
      exact h

/-- Every run keeps what matters of the history, to which it adds what it admits. -/
theorem Recalls.after {start : Int64} (h : l.Recalls history start) (hstart : 0 ≤ start)
    (actions : List Action)
    (horder : (start :: (actions.map Action.time ++ [now])).Pairwise (· ≤ ·)) :
    (l.after actions).Recalls (history ++ l.admitted actions) now := by
  induction actions generalizing l history start with
  | nil =>
    rw [admitted, List.append_nil]
    exact h.later (List.rel_of_pairwise_cons horder (List.mem_singleton_self now))
  | cons action actions ih =>
    have hstep : start ≤ action.time := List.rel_of_pairwise_cons horder List.mem_cons_self
    have htime : 0 ≤ action.time := Int64.le_trans hstart hstep
    -- the rest of the run begins at the time of the first action
    have hrest := ih (.on action (h.later hstep) htime) htime (List.pairwise_cons.mp horder).2
    rw [List.append_assoc] at hrest
    exact hrest

/-- A new limiter recalls what it has admitted, after every run. -/
theorem recalls_after (n : Nat) {actions : List Action}
    (h : Chronological (actions.map Action.time ++ [now])) :
    ((ofMillis n).after actions).Recalls ((ofMillis n).admitted actions) now :=
  (recalls_ofMillis n 0).after (Int64.le_refl 0) actions h

/-! ### What decides -/

section Alike

variable {l₁ l₂ : Limiter} {history₁ history₂ : List Arrival}

/-- Limiters with the same interval whose histories tell the same of an address decide alike on
it. -/
theorem Recalls.admits_eq (h₁ : l₁.Recalls history₁ now) (h₂ : l₂.Recalls history₂ now)
    (hinterval : l₁.interval = l₂.interval)
    (hsame : ∀ u, (source, u) ∈ history₁ ↔ (source, u) ∈ history₂) :
    l₁.admits source now = l₂.admits source now := by
  have hrecent (u : Int64) : l₁.isRecent u now = l₂.isRecent u now := by
    rw [isRecent, isRecent, hinterval]
  rw [Bool.eq_iff_iff, h₁.admits_iff, h₂.admits_iff]
  exact forall_congr' fun u => by rw [hsame, hrecent]

/-- Such limiters go on to admit the same connections of the address, whatever else they admit. -/
theorem Recalls.mem_admitted_iff {start : Int64} (h₁ : l₁.Recalls history₁ start)
    (h₂ : l₂.Recalls history₂ start) (hinterval : l₁.interval = l₂.interval)
    (hsame : ∀ u, (source, u) ∈ history₁ ↔ (source, u) ∈ history₂) (hstart : 0 ≤ start)
    (actions : List Action) (horder : (start :: actions.map Action.time).Pairwise (· ≤ ·))
    (u : Int64) :
    (source, u) ∈ history₁ ++ l₁.admitted actions ↔
      (source, u) ∈ history₂ ++ l₂.admitted actions := by
  induction actions generalizing l₁ l₂ history₁ history₂ start with
  | nil =>
    rw [admitted, admitted, List.append_nil, List.append_nil]
    exact hsame u
  | cons action actions ih =>
    have hstep : start ≤ action.time := List.rel_of_pairwise_cons horder List.mem_cons_self
    have htime : 0 ≤ action.time := Int64.le_trans hstart hstep
    have hgrants (u : Int64) :
        (source, u) ∈ l₁.grants action ↔ (source, u) ∈ l₂.grants action := by
      rw [mem_grants_iff, mem_grants_iff]
      refine and_congr_right ?_
      rintro rfl
      have hadmits : l₁.admits source u = l₂.admits source u :=
        (h₁.later hstep).admits_eq (h₂.later hstep) hinterval hsame
      rw [hadmits]
    rw [admitted, admitted, ← List.append_assoc, ← List.append_assoc]
    refine ih (.on action (h₁.later hstep) htime) (.on action (h₂.later hstep) htime) ?_
      (fun u => ?_) htime (List.pairwise_cons.mp horder).2
    · rw [interval_on, interval_on, hinterval]
    · rw [List.mem_append, List.mem_append, hsame, hgrants]

end Alike

/-- An action that does not admit an address may be left out of a run without any effect on the
address. -/
theorem admits_leaveOut (n : Nat) {earlier later : List Action} {action : Action}
    (h : Chronological ((earlier ++ action :: later).map Action.time ++ [now]))
    (hidle : ∀ u, (source, u) ∉ ((ofMillis n).after earlier).grants action) :
    ((ofMillis n).after (earlier ++ later)).admits source now =
      ((ofMillis n).after (earlier ++ action :: later)).admits source now := by
  have hsublist : (earlier ++ later).Sublist (earlier ++ action :: later) :=
    (List.Sublist.refl earlier).append (List.sublist_cons_self action later)
  have hshort : Chronological ((earlier ++ later).map Action.time ++ [now]) :=
    h.sublist (((hsublist.map Action.time).append_right [now]).cons_cons 0)
  refine (recalls_after n hshort).admits_eq (recalls_after n h) ?_ ?_
  · rw [interval_after, interval_after]
  -- the two runs are the same up to the action, and after it they tell the same of the address
  have htimes : (earlier ++ action :: later).map Action.time ++ [now] =
      earlier.map Action.time ++ action.time :: (later.map Action.time ++ [now]) := by
    simp only [List.map_append, List.map_cons, List.append_assoc, List.cons_append]
  have hbefore : Chronological (earlier.map Action.time ++ [action.time]) := by
    rw [htimes] at h
    exact h.sublist ((((List.nil_sublist _).cons_cons _).append_left _).cons_cons 0)
  have hafter : (0 :: action.time :: later.map Action.time).Pairwise (· ≤ ·) := by
    rw [htimes] at h
    refine h.sublist (List.Sublist.cons_cons 0 ?_)
    exact ((List.sublist_append_left _ _).cons_cons _).trans (List.sublist_append_right _ _)
  have htime : 0 ≤ action.time := List.rel_of_pairwise_cons hafter List.mem_cons_self
  have hrecalls := recalls_after n hbefore
  intro u
  rw [admitted_append, admitted_append, admitted, ← List.append_assoc]
  refine hrecalls.mem_admitted_iff (.on action hrecalls htime) (interval_on _ _).symm
    (fun u => ?_) htime later (List.pairwise_cons.mp hafter).2 u
  rw [List.mem_append]
  exact ⟨.inl, fun hor => hor.resolve_right (hidle u)⟩

/-- After any run, a connection at any later time is admitted exactly if no connection of its
address has been admitted within the interval before it. Whatever the run did that did not admit the
address may be left out: connections that were turned away, connections of others, and forgetting.
None of the times that are subtracted is so far back that the difference overflows. -/
theorem admission_run (n : Nat) (actions : List Action) (source : IpAddress) (now : Int64)
    (h : Chronological (actions.map Action.time ++ [now])) :
    let l := (ofMillis n).after actions
    let interval : Int := (min n maxInterval : Nat)
    ((l.arrive source now).1 = true ↔
      ∀ u, (source, u) ∈ (ofMillis n).admitted actions → ¬ now.toInt - u.toInt < interval) ∧
    (∀ earlier action later, actions = earlier ++ action :: later →
      (∀ u, (source, u) ∉ ((ofMillis n).after earlier).grants action) →
      (((ofMillis n).after (earlier ++ later)).arrive source now).1 = (l.arrive source now).1) ∧
    ∀ last : Int64, last = now ∨ (∃ other : IpAddress, l.lastSeen[other]? = some last) →
      (now - last).toInt = now.toInt - last.toInt := by
  intro l interval
  have hrecalls : l.Recalls _ now := recalls_after n h
  have hdecision (l : Limiter) : (l.arrive source now).1 = l.admits source now := by
    rw [arrive]
    cases l.admits source now <;> rfl
  refine ⟨?_, fun earlier action later hactions hidle => ?_, fun last hlast => ?_⟩
  · have hinterval : l.interval.toInt = interval := by
      rw [interval_after, toInt_interval_ofMillis]
    rw [hdecision, hrecalls.admits_iff]
    refine forall_congr' fun u => imp_congr_right fun hu => ?_
    rw [← Bool.not_eq_true, l.isRecent_iff (hrecalls.nonneg source u hu)
      (hrecalls.le_now source u hu), hinterval]
  · rw [hdecision, hdecision]
    subst hactions
    exact admits_leaveOut n h hidle
  · have hnow : 0 ≤ now :=
      List.rel_of_pairwise_cons h (List.mem_append_right _ (List.mem_singleton_self now))
    obtain rfl | ⟨other, hget⟩ := hlast
    · exact Int64.toInt_sub_of_le last last hnow (Int64.le_refl last)
    · have hmem := hrecalls.mem_of_get other last hget
      exact Int64.toInt_sub_of_le now last (hrecalls.nonneg other last hmem)
        (hrecalls.le_now other last hmem)

/-- A connection that was turned away and a reminder to forget do not put off the next admission. -/
theorem admission_retry :
    let retried : List Action := [.arrive (.v4 1) 0, .arrive (.v4 1) 900, .prune 960]
    (ofMillis 1000).admitted retried = [(.v4 1, 0)] ∧
      (((ofMillis 1000).after retried).arrive (.v4 1) 1000).1 = true := by
  intro retried
  have hinterval : Int64.ofNat (min 1000 maxInterval) = 1000 := by decide
  have hadmitted : (ofMillis 1000).admitted retried = [(.v4 1, 0)] := by
    simp [retried, admitted, Limiter.on, grants, arrive, admits, record, ofMillis, hinterval, size,
      isRecent, maxTracked, Std.HashMap.size_insert]
  obtain ⟨hdecision, -⟩ := admission_run 1000 retried (.v4 1) 1000 (by decide)
  refine ⟨hadmitted, hdecision.mpr fun u hu => ?_⟩
  rw [hadmitted, List.mem_singleton] at hu
  cases hu
  decide

/-! ### How much is remembered -/

/-- The addresses of a history that had a connection admitted less than the interval before a
time. -/
def live (interval : Int) (history : List Arrival) (now : Int64) : Finset IpAddress :=
  ((history.filter fun a => now.toInt - a.2.toInt < interval).map Prod.fst).toFinset

theorem mem_live {interval : Int} :
    source ∈ live interval history now ↔
      ∃ u, (source, u) ∈ history ∧ now.toInt - u.toInt < interval := by
  simp [live]

theorem size_eq_card (l : Limiter) : l.size = l.lastSeen.keys.toFinset.card := by
  rw [List.toFinset_card_of_nodup Std.HashMap.nodup_keys, Std.HashMap.length_keys]
  rfl

theorem mem_keys_iff :
    source ∈ l.lastSeen.keys.toFinset ↔ ∃ last, l.lastSeen[source]? = some last := by
  rw [List.mem_toFinset, Std.HashMap.mem_keys, ← Std.HashMap.isSome_getElem?_iff_mem,
    Option.isSome_iff_exists]

/-- Addresses that count are remembered. -/
theorem Recalls.live_subset (h : l.Recalls history now) :
    live l.interval.toInt history now ⊆ l.lastSeen.keys.toFinset := by
  intro source hlive
  obtain ⟨u, hu, hrecent⟩ := mem_live.mp hlive
  rw [mem_keys_iff]
  by_contra hforgotten
  have hnone : l.lastSeen[source]? = none := by
    simpa [Option.eq_none_iff_forall_ne_some] using hforgotten
  have hstale := h.stale_of_forgotten source u hnone hu
  rw [(l.isRecent_iff (h.nonneg source u hu) (h.le_now source u hu)).mpr hrecent] at hstale
  cases hstale

/-- The table never holds fewer addresses than those that count. -/
theorem Recalls.card_live_le (h : l.Recalls history now) :
    (live l.interval.toInt history now).card ≤ l.size := by
  rw [size_eq_card]
  exact Finset.card_le_card h.live_subset

/-- Once stale addresses are forgotten, the table holds those that count. -/
theorem Recalls.size_prune (h : l.Recalls history now) :
    (l.prune now).size = (live l.interval.toInt history now).card := by
  refine Nat.le_antisymm ?_ h.prune.card_live_le
  rw [size_eq_card]
  refine Finset.card_le_card fun source hsource => ?_
  obtain ⟨last, hget⟩ := mem_keys_iff.mp hsource
  rw [getElem?_prune, Option.filter_eq_some_iff] at hget
  have hlast := h.mem_of_get source last hget.1
  exact mem_live.mpr ⟨last, hlast,
    (l.isRecent_iff (h.nonneg source last hlast) (h.le_now source last hlast)).mp hget.2⟩

/-- The table is within its bound, or it holds exactly the addresses that counted when the last
connection was admitted. -/
def Compact (l : Limiter) (history : List Arrival) : Prop :=
  l.size ≤ maxTracked ∨
    ∃ source now, history.getLast? = some (source, now) ∧
      l.size = (live l.interval.toInt history now).card

/-- Deciding on a connection leaves the table compact. -/
theorem Compact.arrive (hcompact : l.Compact history) (h : l.Recalls history now) (hnow : 0 ≤ now)
    (source : IpAddress) :
    (l.on (.arrive source now)).Compact (history ++ l.grants (.arrive source now)) := by
  rw [Limiter.on, grants, Limiter.arrive]
  split
  next =>
    have hnoting := h.noting hnow source
    rw [record_eq]
    split
    next =>
      -- the table grew too large, so what is stale was forgotten at the time of the admission
      exact .inr ⟨source, now, List.getLast?_concat, hnoting.size_prune⟩
    next hsmall => exact .inl (Nat.le_of_not_lt hsmall)
  next =>
    rw [if_neg Bool.false_ne_true, List.append_nil]
    exact hcompact

/-- A run of connections leaves the table compact. -/
theorem Compact.after {start : Int64} (hcompact : l.Compact history) (h : l.Recalls history start)
    (hstart : 0 ≤ start) (arrivals : List Arrival)
    (horder : (start :: arrivals.map Prod.snd).Pairwise (· ≤ ·)) :
    (l.after (arrivals.map Action.ofArrival)).Compact
      (history ++ l.admitted (arrivals.map Action.ofArrival)) := by
  induction arrivals generalizing l history start with
  | nil =>
    rw [List.map_nil, admitted, List.append_nil]
    exact hcompact
  | cons arrival arrivals ih =>
    have hstep : start ≤ arrival.2 := List.rel_of_pairwise_cons horder List.mem_cons_self
    have htime : 0 ≤ arrival.2 := Int64.le_trans hstart hstep
    have hlater := h.later hstep
    have hrest := ih (hcompact.arrive hlater htime arrival.1)
      (.on (.ofArrival arrival) hlater htime) htime (List.pairwise_cons.mp horder).2
    rw [List.append_assoc] at hrest
    exact hrest

/-- After a run of connections the table of a new limiter is compact. -/
theorem compact_after (n : Nat) {arrivals : List Arrival}
    (h : Chronological (arrivals.map Prod.snd)) :
    ((ofMillis n).after (arrivals.map Action.ofArrival)).Compact
      ((ofMillis n).admitted (arrivals.map Action.ofArrival)) := by
  have hempty : (ofMillis n).Compact [] := .inl (Nat.zero_le maxTracked)
  exact hempty.after (recalls_ofMillis n 0) (Int64.le_refl 0) arrivals h

theorem times_ofArrival (arrivals : List Arrival) :
    (arrivals.map Action.ofArrival).map Action.time = arrivals.map Prod.snd := by
  rw [List.map_map]
  rfl

/-- After a run of connections the table is within its bound, or it holds exactly the addresses that
had a connection admitted less than the interval before the last one that was admitted. At no later
time does it hold fewer addresses than those that still count. -/
theorem tracked_run (n : Nat) (arrivals : List Arrival)
    (h : Chronological (arrivals.map Prod.snd)) :
    let l := (ofMillis n).after (arrivals.map Action.ofArrival)
    let history := (ofMillis n).admitted (arrivals.map Action.ofArrival)
    let interval : Int := (min n maxInterval : Nat)
    (l.size ≤ maxTracked ∨
      ∃ source now, history.getLast? = some (source, now) ∧
        l.size = (live interval history now).card) ∧
    ∀ now, Chronological (arrivals.map Prod.snd ++ [now]) →
      (live interval history now).card ≤ l.size := by
  intro l history interval
  have hinterval : l.interval.toInt = interval := by
    rw [interval_after, toInt_interval_ofMillis]
  rw [← hinterval]
  refine ⟨compact_after n h, fun now hnow => ?_⟩
  have hrecalls : l.Recalls history now := recalls_after n (by rwa [times_ofArrival])
  exact hrecalls.card_live_le

/-! ### Crowds -/

/-- Connections from addresses of which nothing is known are all admitted. -/
theorem Recalls.admitted_of_new (h : l.Recalls history now) (hnow : 0 ≤ now)
    {sources : List IpAddress} (hnodup : sources.Nodup)
    (hnew : ∀ source ∈ sources, ∀ u, (source, u) ∉ history) :
    l.admitted (sources.map fun source => .arrive source now) = sources.map (·, now) := by
  induction sources generalizing l history with
  | nil => rfl
  | cons source sources ih =>
    obtain ⟨hsource, hnodup⟩ := List.nodup_cons.mp hnodup
    have hadmits : l.admits source now = true :=
      (h.admits_iff source).mpr fun u hu => absurd hu (hnew source List.mem_cons_self u)
    have hgrants : l.grants (.arrive source now) = [(source, now)] := by
      rw [grants, Limiter.arrive, if_pos hadmits]
      rfl
    have hon := Recalls.on (.arrive source now) h hnow
    rw [List.map_cons, admitted, List.map_cons, hgrants]
    refine congrArg ((source, now) :: ·) (ih hon hnodup fun other hother u hu => ?_)
    -- the first address is not among the others, so nothing is known of them still
    rw [hgrants, List.mem_append, List.mem_singleton, Prod.mk.injEq] at hu
    obtain hold | ⟨rfl, -⟩ := hu
    · exact hnew other (List.mem_cons_of_mem source hother) u hold
    · exact hsource hother

/-- As many addresses as are asked for. -/
def addresses (n : Nat) : List IpAddress := (List.range n).map fun i => .v4 (UInt32.ofNat i)

/-- A connection from each of them, all at the same time. -/
def crowd (n : Nat) : List Arrival := (addresses n).map (·, 0)

theorem nodup_addresses {n : Nat} (hn : n ≤ UInt32.size) : (addresses n).Nodup := by
  refine List.nodup_range.map_on fun i hi j hj hij => ?_
  rw [List.mem_range] at hi hj
  have hbits := congrArg UInt32.toNat (IpAddress.v4.inj hij)
  rwa [UInt32.toNat_ofNat_of_lt' (Nat.lt_of_lt_of_le hi hn),
    UInt32.toNat_ofNat_of_lt' (Nat.lt_of_lt_of_le hj hn)] at hbits

theorem chronological_crowd (n : Nat) : Chronological ((crowd n).map Prod.snd ++ [0]) := by
  have htimes : (crowd n).map Prod.snd ++ [0] = List.replicate (n + 1) 0 := by
    rw [List.replicate_succ', crowd, addresses, List.map_map, List.map_map]
    simp [Function.comp_def]
  rw [Chronological, htimes, ← List.replicate_succ, List.pairwise_replicate]
  exact .inr (Int64.le_refl 0)

/-- Everybody in a crowd is admitted. -/
theorem admitted_crowd (interval : Nat) {n : Nat} (hn : n ≤ UInt32.size) :
    (ofMillis interval).admitted ((crowd n).map Action.ofArrival) = crowd n := by
  rw [crowd, List.map_map]
  exact (recalls_ofMillis interval 0).admitted_of_new (Int64.le_refl 0) (nodup_addresses hn)
    fun _ _ _ => nofun

/-- Everybody in a crowd counts at once. -/
theorem card_live_crowd {interval : Int} (hinterval : 0 < interval) {n : Nat}
    (hn : n ≤ UInt32.size) : (live interval (crowd n) 0).card = n := by
  have hall : (crowd n).filter (fun a => (0 : Int64).toInt - a.2.toInt < interval) = crowd n := by
    refine List.filter_eq_self.mpr fun a ha => ?_
    obtain ⟨source, -, rfl⟩ := List.mem_map.mp ha
    simpa using hinterval
  rw [live, hall, crowd, List.map_map]
  simp only [Function.comp_def, List.map_id']
  rw [List.toFinset_card_of_nodup (nodup_addresses hn), addresses, List.length_map,
    List.length_range]

/-- The table holds a whole crowd that is one larger than its bound: nobody in it may be forgotten
yet. -/
theorem tracked_crowd :
    ((ofMillis 1000).after ((crowd (maxTracked + 1)).map Action.ofArrival)).size =
      maxTracked + 1 := by
  have hn : maxTracked + 1 ≤ UInt32.size := by decide
  have htimes := chronological_crowd (maxTracked + 1)
  obtain ⟨hcompact, hlive⟩ := tracked_run 1000 (crowd (maxTracked + 1))
    (htimes.sublist ((List.sublist_append_left _ _).cons_cons 0))
  have hall := hlive 0 htimes
  rw [admitted_crowd 1000 hn] at hcompact hall
  have hinterval : (0 : Int) < (min 1000 maxInterval : Nat) := by decide
  rw [card_live_crowd hinterval hn] at hall
  obtain hsmall | ⟨source, now, hlast, hsize⟩ := hcompact
  · exact absurd (Nat.le_trans hall hsmall) (Nat.not_succ_le_self maxTracked)
  · obtain ⟨_, -, heq⟩ := List.mem_map.mp (List.mem_of_getLast? hlast)
    obtain rfl : now = 0 := (congrArg Prod.snd heq).symm
    rw [hsize, card_live_crowd hinterval hn]

/-- One connection from each of 4097 addresses, all within one second, makes the table larger than
its bound. -/
theorem crowd_exceeds_maxTracked :
    Chronological ((crowd 4097).map Prod.snd) ∧
      ¬ ((ofMillis 1000).after ((crowd 4097).map Action.ofArrival)).size ≤ maxTracked := by
  have hn : 4097 ≤ UInt32.size := by decide
  have htimes := chronological_crowd 4097
  refine ⟨htimes.sublist ((List.sublist_append_left _ _).cons_cons 0), fun hsmall => ?_⟩
  have hrecalls : ((ofMillis 1000).after ((crowd 4097).map Action.ofArrival)).Recalls
      ((ofMillis 1000).admitted ((crowd 4097).map Action.ofArrival)) 0 :=
    recalls_after 1000 (by rwa [times_ofArrival])
  have hlive := hrecalls.card_live_le
  rw [admitted_crowd 1000 hn, interval_after,
    card_live_crowd (by rw [toInt_interval_ofMillis]; decide) hn] at hlive
  exact absurd (Nat.le_trans hlive hsmall) (by decide)

end FederatedCatalog.Limiter
