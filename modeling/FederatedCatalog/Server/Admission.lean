import Std.Data.HashMap
import FederatedCatalog.IpAddress.Basic

/-!
# Admission of connections

A server admits a connection only if none from the same address was admitted within the last
interval. Connections that are turned away do not count. Times are milliseconds on the clock of the
host, in 64 bits. Addresses whose last admission is an interval old are forgotten when the table
grows beyond its bound.
-/

namespace FederatedCatalog

/-- The record of admitted connections. -/
structure Limiter where
  /-- The least time between two admissions from one address, in milliseconds. -/
  interval : Int64
  /-- When each address was last admitted. -/
  lastSeen : Std.HashMap IpAddress Int64 := ∅

namespace Limiter

/-- The number of addresses above which stale ones are forgotten. -/
def maxTracked : Nat := 4096

/-- The longest interval: what 63 bits hold. -/
def maxInterval : Nat := Int64.maxValue.toNatClampNeg

/-- A limiter for an interval in milliseconds, cut down to the longest one. -/
def ofMillis (n : Nat) : Limiter := { interval := Int64.ofNat (min n maxInterval) }

/-- The number of addresses that are remembered. -/
def size (l : Limiter) : Nat := l.lastSeen.size

/-- Whether an admission at `last` still counts at `now`. -/
def isRecent (l : Limiter) (last now : Int64) : Bool := now - last < l.interval

/-- Forget the addresses whose last admission is an interval old. -/
def prune (l : Limiter) (now : Int64) : Limiter :=
  { l with lastSeen := l.lastSeen.filter fun _ last => l.isRecent last now }

/-- Remember an admission, and forget stale addresses if the table has grown too large. -/
def record (l : Limiter) (source : IpAddress) (now : Int64) : Limiter :=
  let l := { l with lastSeen := l.lastSeen.insert source now }
  if maxTracked < l.size then l.prune now else l

/-- Whether a connection from `source` at `now` is admitted. -/
def admits (l : Limiter) (source : IpAddress) (now : Int64) : Bool :=
  match l.lastSeen[source]? with
  | none => true
  | some last => !l.isRecent last now

/-- Decide on a connection, and remember it if it is admitted. -/
def arrive (l : Limiter) (source : IpAddress) (now : Int64) : Bool × Limiter :=
  if l.admits source now then (true, l.record source now) else (false, l)

/-- Decide on connections one after the other; the answer counts those that are admitted. -/
def arriveAll (l : Limiter) (attempts : List (IpAddress × Int64)) : Nat × Limiter :=
  attempts.foldl (fun (count, l) (source, now) =>
    let (admitted, l) := l.arrive source now
    (if admitted then count + 1 else count, l)) (0, l)

end Limiter

end FederatedCatalog
