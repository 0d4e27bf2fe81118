import FederatedCatalog.Proofs.Server.Rounds
import FederatedCatalog.Server.GossipSchedule

/-!
# Rounds do not pile up

A round of gossip takes as long as its peer lets it, and that may be many intervals. The rounds that
were missed are not made up for: after a late round the timer counts on from there. So the timer is
never ahead of the intervals that have passed, and between two rounds there is always an interval,
up to the few milliseconds by which a round may be late without moving the timer.

## Main definitions

* `GossipSchedule.Follows`: what one round does to the schedule;
* `GossipSchedule.OnTime`: the timer is not ahead;
* `GossipSchedule.nth`: the rounds in their order;
* `GossipSchedule.Opening` and `GossipSchedule.Stops`: the rounds up to a moment.

## Main results

* `GossipSchedule.follows_next` and `GossipSchedule.OnTime.after`: a round, and a run of rounds;
* `GossipSchedule.runFor_rounds`: a run up to a moment makes the rounds in their order;
* `GossipSchedule.rounds_paced`: when rounds start, and what they send.
-/

namespace FederatedCatalog.GossipSchedule

variable {c : Course} {s s' : State} {timed : TimedRound}

/-! ### One round -/

/-- The timer moves on by an interval at least. -/
theorem le_nextTick {tick start : Nat} (interval resolution : Nat) (h : tick ≤ start) :
    tick + interval ≤ nextTick interval tick start resolution := by
  rw [nextTick]
  split
  · exact Nat.add_le_add_right h interval
  · exact Nat.le_refl _

/-- The timer moves on by an interval from the start of a round, up to the tolerance. -/
theorem start_le_nextTick (interval tick start resolution : Nat) :
    start + interval ≤ nextTick interval tick start resolution + tolerance * resolution := by
  rw [nextTick]
  split <;> omega

/-- The state `s'` comes after `s` by this round: it starts when the timer has ticked and the last
one is over, it asks whoever is known by then, and the timer moves on. -/
structure Follows (c : Course) (s : State) (timed : TimedRound) (s' : State) : Prop where
  start_eq : timed.start = max s.free s.tick + c.lateness s.rounds
  start_le_finish : timed.start ≤ timed.finish
  round_eq : timed.round = (c.meanwhile s.rounds s.directory).exchangeRound
    (c.selectors s.selections) fun peer request => (c.connectors s.rounds peer request).1
  tick_eq : s'.tick = nextTick c.interval s.tick timed.start c.resolution
  free_eq : s'.free = timed.finish
  rounds_eq : s'.rounds = s.rounds + 1

theorem follows_next (c : Course) (s : State) : Follows c s (next c s).1 (next c s).2 := by
  rw [next]
  dsimp only
  -- a round without a target is over at once, and any other takes as long as its peer
  cases htarget : (c.meanwhile s.rounds s.directory).target? (c.selectors s.selections) with
  | none =>
    refine ⟨rfl, Nat.le_refl _, ?_, rfl, rfl, rfl⟩
    rw [Directory.exchangeRound, htarget]
  | some peer =>
    refine ⟨rfl, Nat.le_add_right _ _, ?_, rfl, rfl, rfl⟩
    rw [Directory.exchangeRound, htarget]

theorem Follows.tick_le_start (h : Follows c s timed s') : s.tick ≤ timed.start := by
  rw [h.start_eq]
  omega

/-- A round sends nothing when nobody else is known by then, and the list of known servers to one of
the others otherwise. -/
theorem Follows.sent (h : Follows c s timed s') :
    let directory := c.meanwhile s.rounds s.directory
    (directory.others = [] → timed.round.sent = []) ∧
      (directory.others ≠ [] → ∃ peer ∈ directory.others,
        timed.round.sent = [⟨peer, (Request.exchange directory.known).render⟩]) := by
  rw [h.round_eq]
  constructor
  · intro halone
    rw [Directory.exchangeRound_of_alone halone]
  · intro hothers
    obtain ⟨peer, hpeer, htarget⟩ := Directory.exists_target hothers (c.selectors s.selections)
    exact ⟨peer, hpeer, Directory.sent_exchangeRound _ htarget⟩

/-! ### Runs of rounds -/

/-- After `n` rounds the timer ticks after `n + 1` intervals at the earliest. -/
def OnTime (c : Course) (s : State) : Prop := (s.rounds + 1) * c.interval ≤ s.tick

theorem onTime_start (c : Course) (d : Directory) : OnTime c (start c d) :=
  Nat.le_of_eq (Nat.one_mul c.interval)

theorem OnTime.follows (h : OnTime c s) (hround : Follows c s timed s') : OnTime c s' := by
  have htick := le_nextTick c.interval c.resolution hround.tick_le_start
  rw [OnTime] at h ⊢
  calc (s'.rounds + 1) * c.interval
      = (s.rounds + 1) * c.interval + c.interval := by rw [hround.rounds_eq, Nat.succ_mul]
    _ ≤ s.tick + c.interval := Nat.add_le_add_right h _
    _ ≤ s'.tick := by rwa [hround.tick_eq]

/-- However long the rounds take, the timer is never ahead. -/
theorem OnTime.after (h : OnTime c s) (n : Nat) : OnTime c (after c s n) := by
  induction n with
  | zero => exact h
  | succ n ih => exact ih.follows (follows_next c _)

theorem rounds_after (c : Course) (s : State) (n : Nat) : (after c s n).rounds = s.rounds + n := by
  induction n with
  | zero => rfl
  | succ n ih =>
    rw [after, (follows_next c _).rounds_eq, ih, Nat.add_assoc]

/-- The round after `n` others. -/
def nth (c : Course) (s : State) (n : Nat) : TimedRound := (next c (after c s n)).1

theorem after_next (c : Course) (s : State) (n : Nat) :
    after c (next c s).2 n = after c s (n + 1) := by
  -- `after` adds rounds at the end, and here one is added in front
  induction n with
  | zero => rfl
  | succ n ih =>
    rw [after, ih]
    rfl

/-- The rounds behind the first one are those of the state after it. -/
theorem nth_succ (c : Course) (s : State) (n : Nat) : nth c s (n + 1) = nth c (next c s).2 n := by
  rw [nth, nth, after_next]

/-- The first `m` rounds start by the time `limit`, and all of them but the last one are over by
then, without a crash. -/
structure Opening (c : Course) (s : State) (limit m : Nat) : Prop where
  start_le : ∀ n < m, (nth c s n).start ≤ limit
  goesOn : ∀ n, n + 1 < m → (nth c s n).finish ≤ limit ∧
    ∀ peer, (nth c s n).round.outcome ≠ .crashed peer

/-- After `m` rounds nothing more happens by the time `limit`. -/
inductive Stops (c : Course) (s : State) (limit : Nat) : Nat → Prop where
  | later {m : Nat} (h : limit < (nth c s m).start) : Stops c s limit m
  | unfinished {m : Nat} (h : limit < (nth c s m).finish) : Stops c s limit (m + 1)
  | crashed {m : Nat} {peer : Peer} (h : (nth c s m).round.outcome = .crashed peer) :
      Stops c s limit (m + 1)

theorem opening_zero (c : Course) (s : State) (limit : Nat) : Opening c s limit 0 := ⟨nofun, nofun⟩

theorem opening_one {limit : Nat} (h : (nth c s 0).start ≤ limit) : Opening c s limit 1 := by
  refine ⟨fun n hn => ?_, fun n hn => by omega⟩
  obtain rfl : n = 0 := by omega
  exact h

/-- One more round in front. -/
theorem Opening.cons {limit m : Nat} (h : Opening c (next c s).2 limit m)
    (hstart : (nth c s 0).start ≤ limit) (hfinish : (nth c s 0).finish ≤ limit)
    (hcrash : ∀ peer, (nth c s 0).round.outcome ≠ .crashed peer) : Opening c s limit (m + 1) := by
  constructor
  · intro n hn
    cases n with
    | zero => exact hstart
    | succ n =>
      rw [nth_succ]
      exact h.start_le n (by omega)
  · intro n hn
    cases n with
    | zero => exact ⟨hfinish, hcrash⟩
    | succ n =>
      rw [nth_succ]
      exact h.goesOn n (by omega)

theorem Stops.cons {limit m : Nat} (h : Stops c (next c s).2 limit m) :
    Stops c s limit (m + 1) := by
  cases h with
  | later h => exact .later (by rwa [nth_succ])
  | unfinished h => exact .unfinished (by rwa [nth_succ])
  | crashed h => exact .crashed (by rwa [nth_succ])

/-- A run up to a moment makes the rounds in their order, until nothing more happens by then or the
bound is reached. -/
theorem runFor_rounds (c : Course) (limit bound : Nat) (s : State) :
    ∃ m, (runFor c limit bound s).rounds = (List.range m).map (nth c s) ∧ Opening c s limit m ∧
      (m = bound ∨ Stops c s limit m) := by
  induction bound generalizing s with
  | zero => exact ⟨0, rfl, opening_zero c s limit, .inl rfl⟩
  | succ bound ih =>
    rw [runFor]
    dsimp only
    split
    next hlater => exact ⟨0, rfl, opening_zero c s limit, .inr (.later hlater)⟩
    next hstart =>
      have hone := opening_one (c := c) (s := s) (Nat.le_of_not_lt hstart)
      split
      next hfinish => exact ⟨1, rfl, hone, .inr (.unfinished hfinish)⟩
      next hfinish =>
        split
        next peer hcrash => exact ⟨1, rfl, hone, .inr (.crashed hcrash)⟩
        next hcrash =>
          -- this round is over by then, and the others are those of the state after it
          obtain ⟨m, hrounds, hopening, hstops⟩ := ih (next c s).2
          refine ⟨m + 1, ?_, hopening.cons (Nat.le_of_not_lt hstart) (Nat.le_of_not_lt hfinish)
            hcrash, ?_⟩
          · rw [hrounds, List.range_succ_eq_map, List.map_cons, List.map_map]
            exact congrArg _ (List.map_congr_left fun n _ => (nth_succ c s n).symm)
          · exact hstops.imp (congrArg (· + 1)) Stops.cons

/-! ### When rounds start -/

theorem interval_eq (c : Course) : c.interval = max c.configured (1000 * c.resolution) := rfl

theorem interval_pos (c : Course) : 0 < c.interval := by
  have hpos := c.resolution_pos
  rw [interval_eq]
  omega

/-- Whatever interval is asked for, however late peers answer and timers wake, whoever is selected
and whatever other tasks do to the list of servers: with an interval of a second at least, a round
starts when as many intervals have passed as there are rounds up to it, it starts when the last one
is over, and it starts an interval after the start of the last one, or up to five milliseconds
earlier. It sends its list to one other server if there are any, and nothing otherwise. These are
the rounds that a run makes, up to any moment. -/
theorem rounds_paced (c : Course) (d : Directory) :
    (∀ n,
      let interval := max c.configured (1000 * c.resolution)
      let directory := c.meanwhile n (after c (start c d) n).directory
      let timed := nth c (start c d) n
      let following := nth c (start c d) (n + 1)
      (n + 1) * interval ≤ timed.start ∧ timed.start ≤ timed.finish ∧
      timed.finish ≤ following.start ∧
      timed.start + interval ≤ following.start + 5 * c.resolution ∧
      (directory.others = [] → timed.round.sent = []) ∧
      (directory.others ≠ [] → ∃ peer ∈ directory.others,
        timed.round.sent = [⟨peer, (Request.exchange directory.known).render⟩])) ∧
    ∀ limit, ∃ m, (c.upTo d limit).rounds = (List.range m).map (nth c (start c d)) ∧
      Opening c (start c d) limit m ∧ Stops c (start c d) limit m := by
  have hstart (n : Nat) : (n + 1) * c.interval ≤ (nth c (start c d) n).start := by
    have htick := (onTime_start c d).after n
    rw [OnTime, rounds_after] at htick
    have hround : Follows c (after c (start c d) n) (nth c (start c d) n) _ := follows_next c _
    have hrounds : (start c d).rounds + n = n := Nat.zero_add n
    rw [hrounds] at htick
    exact Nat.le_trans htick hround.tick_le_start
  constructor
  · intro n interval directory timed following
    -- the state between the two rounds ties them together
    have hround : Follows c (after c (start c d) n) timed (after c (start c d) (n + 1)) :=
      follows_next c _
    have hnext : Follows c (after c (start c d) (n + 1)) following _ := follows_next c _
    have hrounds : (after c (start c d) n).rounds = n :=
      (rounds_after c _ n).trans (Nat.zero_add n)
    have hsent := hround.sent
    rw [hrounds] at hsent
    refine ⟨hstart n, hround.start_le_finish, ?_, ?_, hsent⟩
    · rw [hnext.start_eq, hround.free_eq]
      omega
    · calc timed.start + interval
          ≤ (after c (start c d) (n + 1)).tick + 5 * c.resolution := by
            rw [hround.tick_eq]
            exact start_le_nextTick c.interval _ timed.start c.resolution
        _ ≤ following.start + 5 * c.resolution :=
            Nat.add_le_add_right hnext.tick_le_start _
  · intro limit
    obtain ⟨m, hrounds, hopening, hbound | hstops⟩ :=
      runFor_rounds c limit (limit / c.interval + 1) (start c d)
    · -- as many rounds as the bound allows do not start by then
      have hlast := hopening.start_le (limit / c.interval) (by omega)
      have hlate : limit < (limit / c.interval + 1) * c.interval :=
        (Nat.div_lt_iff_lt_mul (interval_pos c)).mp (Nat.lt_succ_self _)
      exact absurd (Nat.le_trans (hstart _) hlast) (Nat.not_le_of_lt hlate)
    · exact ⟨m, hrounds, hopening, hstops⟩

/-- After a round that takes three intervals and a half, the next one starts at once, and the one
after that an interval later. -/
example :
    let d := (Directory.start ⟨"a", 1⟩).add ⟨"b", 2⟩
    let slow : Nat → TimedConnector := fun round _ _ =>
      (.frames [Status.success.render], if round = 0 then 3500 else 0)
    (run d 1 (fun _ _ => 0) slow 6000).rounds.map (·.start) = [1000, 4500, 5500] := by
  decide +kernel

end FederatedCatalog.GossipSchedule
