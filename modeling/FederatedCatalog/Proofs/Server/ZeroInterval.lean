import FederatedCatalog.Proofs.Server.Admission

/-!
# A limiter without an interval

With an interval of zero no admission counts for any time at all, so nobody would have to be turned
away. While the clock goes on, nobody is. But a limiter compares the time that has passed since the
last admission with the interval, and when the clock was set back that time is negative and less
than any interval: the address is turned away until the clock has caught up.

## Main definitions

* `Limiter.Attested`: what is remembered are times of connections;
* `Limiter.Covers`: no connection is later than what is remembered of its address.

## Main results

* `Limiter.Attested.turns_down_iff`: when a limiter without an interval turns a connection down;
* `Limiter.attested_after`, `Limiter.covers_after`: what such a limiter remembers of any run;
* `Limiter.zero_interval_run`: who is turned away in a run, whichever way the clock goes;
* `Limiter.zero_interval_backstep`: a clock that was set back by two milliseconds.
-/

namespace FederatedCatalog.Limiter

variable {l : Limiter} {arrivals : List Arrival} {source : IpAddress} {now : Int64}

/-! ### Decisions -/

/-- Without an interval an admission counts at the times before it, and at no others. -/
theorem isRecent_iff_lt (hinterval : l.interval = 0) {u : Int64} (hu : 0 ≤ u) (hnow : 0 ≤ now) :
    l.isRecent u now = true ↔ now < u := by
  have hzero : (0 : Int64).toInt = 0 := rfl
  rw [l.isRecent_iff_of_nonneg hu hnow, hinterval, hzero, Int64.lt_iff_toInt_lt]
  omega

/-- Every time that is remembered for an address is that of a connection from it. -/
def Attested (l : Limiter) (arrivals : List Arrival) : Prop :=
  ∀ source last, l.lastSeen[source]? = some last → (source, last) ∈ arrivals

/-- A limiter without an interval turns a connection down exactly if it remembers a later time for
the address. -/
theorem Attested.turns_down_iff (h : l.Attested arrivals) (hinterval : l.interval = 0)
    (hnonneg : ∀ a ∈ arrivals, 0 ≤ a.2) (hnow : 0 ≤ now) (source : IpAddress) :
    (l.arrive source now).1 = false ↔ ∃ last, l.lastSeen[source]? = some last ∧ now < last := by
  have hdecision : (l.arrive source now).1 = l.admits source now := by
    rw [arrive]
    cases l.admits source now <;> rfl
  rw [hdecision, admits]
  cases hget : l.lastSeen[source]? with
  | none => simp
  | some last =>
    have hlast : 0 ≤ last := hnonneg _ (h source last hget)
    simp [isRecent_iff_lt hinterval hlast hnow]

/-! ### What is remembered -/

theorem Attested.noting (h : l.Attested arrivals) (source : IpAddress) (now : Int64) :
    (l.noting source now).Attested (arrivals ++ [(source, now)]) := by
  intro other last hget
  have hinsert : (l.noting source now).lastSeen[other]? =
      if source == other then some now else l.lastSeen[other]? := Std.HashMap.getElem?_insert
  rw [hinsert] at hget
  split at hget
  next heq =>
    obtain rfl := eq_of_beq heq
    obtain rfl := Option.some.inj hget
    simp
  next => exact List.mem_append_left _ (h other last hget)

/-- Deciding on a connection remembers no time except that of the connection. -/
theorem Attested.on (h : l.Attested arrivals) (a : Arrival) :
    (l.on (.ofArrival a)).Attested (arrivals ++ [a]) := by
  have hnoting := h.noting a.1 a.2
  intro other last hget
  simp only [Limiter.on, Action.ofArrival, arrive] at hget
  split at hget
  · rw [record_eq] at hget
    split at hget
    · -- forgetting leaves the times that are still remembered as they were
      rw [getElem?_prune, Option.filter_eq_some_iff] at hget
      exact hnoting other last hget.1
    · exact hnoting other last hget
  · exact List.mem_append_left _ (h other last hget)

/-- No connection of an address is later than the time that is remembered for it. -/
def Covers (l : Limiter) (arrivals : List Arrival) : Prop :=
  ∀ source u, (source, u) ∈ arrivals → ∃ last, l.lastSeen[source]? = some last ∧ u ≤ last

/-- There are no more addresses in the table than connections came from. -/
theorem Attested.size_le (h : l.Attested arrivals) :
    l.size ≤ (arrivals.map Prod.fst).toFinset.card := by
  rw [size_eq_card]
  refine Finset.card_le_card fun source hsource => ?_
  obtain ⟨last, hget⟩ := mem_keys_iff.mp hsource
  rw [List.mem_toFinset]
  exact List.mem_map_of_mem (h source last hget)

/-- Deciding on a connection keeps the latest times, as long as nothing has to be forgotten. -/
theorem Covers.on (h : l.Covers arrivals) (hattested : l.Attested arrivals)
    (hinterval : l.interval = 0) (hnonneg : ∀ a ∈ arrivals, 0 ≤ a.2) {a : Arrival} (ha : 0 ≤ a.2)
    (hfew : ((arrivals ++ [a]).map Prod.fst).toFinset.card ≤ maxTracked) :
    (l.on (.ofArrival a)).Covers (arrivals ++ [a]) := by
  obtain ⟨source, now⟩ := a
  have hturned := hattested.turns_down_iff hinterval hnonneg ha source
  change (l.arrive source now).2.Covers _
  cases hadmits : l.admits source now with
  | false =>
    have hsame : l.arrive source now = (false, l) := by simp [arrive, hadmits]
    rw [hsame] at hturned ⊢
    -- whoever is turned down comes before a time that is remembered
    obtain ⟨last, hget, hlt⟩ := hturned.mp rfl
    intro other u hu
    rw [List.mem_append, List.mem_singleton, Prod.mk.injEq] at hu
    obtain hold | ⟨rfl, rfl⟩ := hu
    · exact h other u hold
    · exact ⟨last, hget, Int64.le_of_lt hlt⟩
  | true =>
    have hkept : (l.arrive source now).2 = l.noting source now := by
      simp only [arrive, hadmits, if_true, record_eq]
      rw [if_neg (Nat.not_lt.mpr (Nat.le_trans (hattested.noting source now).size_le hfew))]
    have hlate : ¬ ∃ last, l.lastSeen[source]? = some last ∧ now < last := by
      rw [← hturned]
      simp [arrive, hadmits]
    rw [hkept]
    intro other u hu
    have hinsert : (l.noting source now).lastSeen[other]? =
        if source == other then some now else l.lastSeen[other]? := Std.HashMap.getElem?_insert
    rw [hinsert]
    by_cases heq : source = other
    · subst heq
      refine ⟨now, by simp, ?_⟩
      rw [List.mem_append, List.mem_singleton, Prod.mk.injEq] at hu
      obtain hold | ⟨-, rfl⟩ := hu
      · -- earlier connections are covered by a time that is not after this one
        obtain ⟨last, hget, hle⟩ := h source u hold
        exact Int64.le_trans hle (Int64.not_lt.mp fun hlt => hlate ⟨last, hget, hlt⟩)
      · exact Int64.le_refl u
    · have hold : (other, u) ∈ arrivals := by
        simpa [Ne.symm heq] using hu
      simpa [heq] using h other u hold

/-! ### Runs -/

theorem interval_ofMillis_zero (actions : List Action) :
    ((ofMillis 0).after actions).interval = 0 := by
  rw [interval_after]
  decide

theorem after_concat (l : Limiter) (arrivals : List Arrival) (a : Arrival) :
    l.after ((arrivals ++ [a]).map Action.ofArrival) =
      (l.after (arrivals.map Action.ofArrival)).on (.ofArrival a) := by
  rw [List.map_append, after_append]
  rfl

/-- After any run, what is remembered are times of its connections. -/
theorem attested_after (n : Nat) (arrivals : List Arrival) :
    ((ofMillis n).after (arrivals.map Action.ofArrival)).Attested arrivals := by
  induction arrivals using List.reverseRecOn with
  | nil =>
    intro source last hget
    simp [after, ofMillis] at hget
  | append_singleton arrivals a ih =>
    rw [after_concat]
    exact ih.on a

/-- After a run of no more addresses than are remembered, the latest time of each of them is. -/
theorem covers_after {arrivals : List Arrival} (hnonneg : ∀ a ∈ arrivals, 0 ≤ a.2)
    (hfew : (arrivals.map Prod.fst).toFinset.card ≤ maxTracked) :
    ((ofMillis 0).after (arrivals.map Action.ofArrival)).Covers arrivals := by
  induction arrivals using List.reverseRecOn with
  | nil => exact fun _ _ => nofun
  | append_singleton arrivals a ih =>
    rw [List.forall_mem_append] at hnonneg
    -- the connections before the last one come from no more addresses
    have hearlier : (arrivals.map Prod.fst).toFinset.card ≤ maxTracked := by
      refine Nat.le_trans (Finset.card_le_card ?_) hfew
      rw [List.map_append, List.toFinset_append]
      exact Finset.subset_union_left
    rw [after_concat]
    exact (ih hnonneg.1 hearlier).on (attested_after 0 arrivals) (interval_ofMillis_zero _)
      hnonneg.1 (hnonneg.2 a (List.mem_singleton_self a)) hfew

/-- A connection that is turned down comes before another one of the same address. -/
theorem exists_later_of_turned_down (hnonneg : ∀ a ∈ arrivals, 0 ≤ a.2) (hnow : 0 ≤ now)
    (h : (((ofMillis 0).after (arrivals.map Action.ofArrival)).arrive source now).1 = false) :
    ∃ u, (source, u) ∈ arrivals ∧ now < u := by
  have hattested := attested_after 0 arrivals
  obtain ⟨last, hget, hlt⟩ :=
    (hattested.turns_down_iff (interval_ofMillis_zero _) hnonneg hnow source).mp h
  exact ⟨last, hattested source last hget, hlt⟩

/-- While the times of each address do not go back, everybody is admitted. -/
theorem admitted_of_forward (hnonneg : ∀ a ∈ arrivals, 0 ≤ a.2)
    (hforward : arrivals.Pairwise fun a b => a.1 = b.1 → a.2 ≤ b.2) :
    (ofMillis 0).admitted (arrivals.map Action.ofArrival) = arrivals := by
  induction arrivals using List.reverseRecOn with
  | nil => rfl
  | append_singleton arrivals a ih =>
    rw [List.forall_mem_append] at hnonneg
    obtain ⟨hearlier, -, hlast⟩ := List.pairwise_append.mp hforward
    have ha : (((ofMillis 0).after (arrivals.map Action.ofArrival)).arrive a.1 a.2).1 = true := by
      by_contra hturned
      obtain ⟨u, hu, hlt⟩ := exists_later_of_turned_down hnonneg.1
        (hnonneg.2 a (List.mem_singleton_self a)) (Bool.eq_false_iff.mpr hturned)
      exact Int64.not_lt.mpr (hlast _ hu a (List.mem_singleton_self a) rfl) hlt
    rw [List.map_append, admitted_append, ih hnonneg.1 hearlier]
    simp [admitted, grants, Action.ofArrival, ha]

/-- A limiter without an interval admits every connection of a run, whatever the addresses and their
order are, as long as the times of each address do not go back. After any run it turns a connection
down exactly if it remembers a later time for the address, and then an earlier connection of the
address bore a later time. Until connections have come from more addresses than the table is made
for, every connection with an earlier one of its address that bore a later time is turned down. -/
theorem zero_interval_run (arrivals : List Arrival) (hnonneg : ∀ a ∈ arrivals, 0 ≤ a.2) :
    ((arrivals.Pairwise fun a b => a.1 = b.1 → a.2 ≤ b.2) →
      (ofMillis 0).admitted (arrivals.map Action.ofArrival) = arrivals) ∧
    ∀ (source : IpAddress) (now : Int64), 0 ≤ now →
      let l := (ofMillis 0).after (arrivals.map Action.ofArrival)
      ((l.arrive source now).1 = false ↔
        ∃ last, l.lastSeen[source]? = some last ∧ now < last) ∧
      ((l.arrive source now).1 = false → ∃ u, (source, u) ∈ arrivals ∧ now < u) ∧
      ((arrivals.map Prod.fst).toFinset.card ≤ maxTracked →
        ∀ u, (source, u) ∈ arrivals → now < u → (l.arrive source now).1 = false) := by
  refine ⟨admitted_of_forward hnonneg, fun source now hnow => ?_⟩
  intro l
  have hturned := (attested_after 0 arrivals).turns_down_iff (interval_ofMillis_zero _) hnonneg
    hnow source
  refine ⟨hturned, exists_later_of_turned_down hnonneg hnow, fun hfew u hu hlt => ?_⟩
  obtain ⟨last, hget, hle⟩ := covers_after hnonneg hfew source u hu
  exact hturned.mpr ⟨last, hget, Int64.lt_of_lt_of_le hlt hle⟩

/-- The times of two addresses may be out of step with each other. Only the address whose own clock
goes back is turned down. -/
theorem zero_interval_run_pair :
    let arrivals : List Arrival := [(.v4 1, 5), (.v4 2, 3), (.v4 1, 5)]
    let l := (ofMillis 0).after (arrivals.map Action.ofArrival)
    (∀ a ∈ arrivals, 0 ≤ a.2) ∧
      (ofMillis 0).admitted (arrivals.map Action.ofArrival) = arrivals ∧
      (l.arrive (.v4 1) 4).1 = false ∧ ¬ (l.arrive (.v4 2) 4).1 = false := by
  intro arrivals l
  have hnonneg : ∀ a ∈ arrivals, 0 ≤ a.2 := by decide
  obtain ⟨hforward, hdecision⟩ := zero_interval_run arrivals hnonneg
  obtain ⟨-, -, hturned⟩ := hdecision (.v4 1) 4 (by decide)
  obtain ⟨-, hlater, -⟩ := hdecision (.v4 2) 4 (by decide)
  refine ⟨hnonneg, hforward (by decide), hturned (by decide) 5 (by decide) (by decide), ?_⟩
  intro hrefused
  -- the only time of the second address is before the one that is asked for
  obtain ⟨u, hu, hlt⟩ := hlater hrefused
  obtain rfl : u = 3 := by simpa [arrivals] using hu
  exact absurd hlt (by decide)

/-- Of two connections from one address the second one is turned down when the clock was set back by
two milliseconds in between, although the interval is zero. -/
theorem zero_interval_backstep :
    let arrivals : List Arrival := [(.v4 1, 5), (.v4 1, 3)]
    (∀ a ∈ arrivals, 0 ≤ a.2) ∧
      (ofMillis 0).admitted (arrivals.map Action.ofArrival) = [(.v4 1, 5)] := by
  intro arrivals
  refine ⟨by decide, ?_⟩
  simp [arrivals, Action.ofArrival, admitted, Limiter.on, grants, arrive, admits, record, ofMillis,
    size, isRecent, maxTracked, Std.HashMap.size_insert]

end FederatedCatalog.Limiter
