import FederatedCatalog.Server.Gossip

/-!
# The schedule of gossip

Rounds of gossip follow a timer that ticks once an interval, the first time one interval after the
start. A round starts at its tick, or when the round before it ends if that is later, and possibly
somewhat after that, since a timer does not wake anybody at once. A round that starts at most five
milliseconds after its tick leaves the timer alone; after a later one the timer counts on from the
start of that round. Times are counted from the start.
-/

namespace FederatedCatalog

/-- How peers answer a request of a round, and after how long. -/
abbrev TimedConnector := Peer → String → PeerAnswer × Nat

namespace GossipSchedule

/-- The least interval between rounds, in seconds. -/
def minIntervalSecs : Nat := 1

/-- How late a round may start without moving the timer, in milliseconds. -/
def tolerance : Nat := 5

/-- The interval that is kept, in seconds, when `secs` is asked for. -/
def effectiveSecs (secs : Nat) : Nat := max secs minIntervalSecs

/-- The tick after a round that started at `start` for the tick `tick`, when a millisecond has
`resolution` units of time. -/
def nextTick (interval tick start : Nat) (resolution : Nat := 1) : Nat :=
  if tick + tolerance * resolution < start then start + interval else tick + interval

/-- Everything that a schedule does not decide by itself. -/
structure Course where
  /-- How many units of time make a millisecond. -/
  resolution : Nat := 1
  resolution_pos : 0 < resolution := by decide
  /-- The interval that is asked for. -/
  configured : Nat
  /-- The choice among the other servers, by the number of earlier choices. -/
  selectors : Nat → Nat → Nat
  /-- How peers answer, by the number of earlier rounds. -/
  connectors : Nat → TimedConnector
  /-- By how much a round starts later than it could, by the number of earlier rounds. -/
  lateness : Nat → Nat := fun _ => 0
  /-- What other tasks make of the known servers before a round, by the number of earlier rounds. -/
  meanwhile : Nat → Directory → Directory := fun _ d => d

/-- The interval that is kept. -/
def Course.interval (c : Course) : Nat := max c.configured (minIntervalSecs * 1000 * c.resolution)

/-- The state of the schedule between two rounds. -/
structure State where
  /-- The known servers. -/
  directory : Directory
  /-- The tick that starts the next round. -/
  tick : Nat
  /-- When the last round ended. -/
  free : Nat := 0
  /-- How many rounds there have been. -/
  rounds : Nat := 0
  /-- How often a peer was selected. -/
  selections : Nat := 0

/-- A round at its place in time. -/
structure TimedRound where
  /-- When it starts. -/
  start : Nat
  /-- When it ends. -/
  finish : Nat
  /-- The round. -/
  round : Round

/-- The schedule before its first round. -/
def start (c : Course) (d : Directory) : State := { directory := d, tick := c.interval }

/-- The next round, and the schedule after it. -/
def next (c : Course) (s : State) : TimedRound × State :=
  let start := max s.free s.tick + c.lateness s.rounds
  let tick := nextTick c.interval s.tick start c.resolution
  let directory := c.meanwhile s.rounds s.directory
  match directory.target? (c.selectors s.selections) with
  | none =>
    (⟨start, start, ⟨.idle, directory, []⟩⟩,
      { s with directory, tick, free := start, rounds := s.rounds + 1 })
  | some peer =>
    let (answer, delay) := c.connectors s.rounds peer directory.gossip
    let round := directory.conclude peer answer
    (⟨start, start + delay, round⟩,
      { directory := round.directory
        tick
        free := start + delay
        rounds := s.rounds + 1
        selections := s.selections + 1 })

/-- The state after some rounds. -/
def after (c : Course) (s : State) : Nat → State
  | 0 => s
  | n + 1 => (next c (after c s n)).2

/-- What happened up to a moment. -/
structure History where
  /-- The rounds that started. -/
  rounds : List TimedRound
  /-- The known servers. -/
  directory : Directory

/-- The rounds that start by the time `limit`. A round that has not ended by then has no effect
yet, and after a crash there are no more rounds. The third argument bounds the number of rounds. -/
def runFor (c : Course) (limit : Nat) : Nat → State → History
  | 0, s => ⟨[], s.directory⟩
  | bound + 1, s =>
    let (timed, s') := next c s
    if limit < timed.start then ⟨[], s.directory⟩
    else if limit < timed.finish then ⟨[timed], s.directory⟩
    else match timed.round.outcome with
      | .crashed _ => ⟨[timed], s.directory⟩
      | _ =>
        let later := runFor c limit bound s'
        { later with rounds := timed :: later.rounds }

/-- Everything up to the time `limit`. The ticks are an interval apart, which bounds the number of
rounds. -/
def Course.upTo (c : Course) (d : Directory) (limit : Nat) : History :=
  runFor c limit (limit / c.interval + 1) (start c d)

/-- Everything up to the time `limit`, in milliseconds, when an interval in seconds is asked for. -/
def run (d : Directory) (intervalSecs : Nat) (selectors : Nat → Nat → Nat)
    (connectors : Nat → TimedConnector) (limit : Nat) : History :=
  let c : Course := { configured := intervalSecs * 1000, selectors, connectors }
  c.upTo d limit

end GossipSchedule

end FederatedCatalog
