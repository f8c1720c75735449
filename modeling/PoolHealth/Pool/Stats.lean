import PoolHealth.Count
import PoolHealth.Json.Reading
import PoolHealth.Time.Calendar

/-!
# Pool statistics

The counters of a pool and the numbers derived from them.  Each counter has a word of 64 bits and
goes up by one at a time, so that it would take `2 ^ 64` events to fill it.  No pool lives to see
them, and counters are natural numbers here.  Only what is added up from several counters, which
may be read from a text, is looked at for overflow.
-/

namespace PoolHealth

/-- The counters of a pool at one point in time. -/
structure PoolStats where
  poolName : String
  active : Nat := 0
  /-- Connections that wait for a borrower. -/
  idle : Nat := 0
  total : Nat := 0
  /-- Callers that wait for a slot. -/
  waiting : Nat := 0
  errors : Nat := 0
  creations : Nat := 0
  closures : Nat := 0
  /-- Requests served by an idle connection. -/
  hits : Nat := 0
  /-- Requests not served. -/
  misses : Nat := 0
  /-- Requests that waited in vain for a slot. -/
  exhaustions : Nat := 0
  /-- The most connections that were ever open. -/
  peak : Nat := 0
  averageWait : Duration := .zero
  lastHealthCheck : Option Timestamp := none
deriving DecidableEq

namespace PoolStats

def fresh (poolName : String) : PoolStats where
  poolName := poolName

def countFloat (n : Nat) : Float := n.toUInt64.toFloat

/-- `part` as a percentage of `whole`. -/
def percentOf (part whole : Nat) : Float := countFloat part / countFloat whole * 100.0

/-- The share of open connections that is lent out, if any is open. -/
def usagePercent? (s : PoolStats) : Option Float :=
  if s.total = 0 then none else some (percentOf s.active s.total)

/-- The share of `maxSize` that is lent out. -/
def capacityPercent (s : PoolStats) (maxSize : Nat) : Float :=
  if maxSize = 0 then 0.0 else percentOf s.active maxSize

/-- Requests that were served, if they can be counted. -/
def served? (s : PoolStats) : Option Nat := Count.sum? [s.hits, s.creations]

/-- The share of `served` requests that an idle connection served. -/
def shareOfHits (s : PoolStats) (served : Nat) : Float :=
  if served = 0 then 0.0 else countFloat s.hits / countFloat served

/-- The share of served requests that an idle connection served, if they can be
counted. -/
def hitRatio? (s : PoolStats) : Option Float := s.served?.map s.shareOfHits

def recordPeak (s : PoolStats) : PoolStats := { s with peak := max s.peak s.total }

/-!
## JSON form
-/

def fieldNames : List String :=
  ["pool_name", "active_connections", "idle_connections", "total_connections",
    "waiting_connections", "connection_errors", "connection_creations", "connection_closures",
    "pool_hits", "pool_misses", "pool_exhaustions", "peak_connections", "average_wait_time",
    "last_health_check"]

def toJson (s : PoolStats) : Json :=
  .object
    [("pool_name", .text s.poolName), ("active_connections", .nat s.active),
      ("idle_connections", .nat s.idle), ("total_connections", .nat s.total),
      ("waiting_connections", .nat s.waiting), ("connection_errors", .nat s.errors),
      ("connection_creations", .nat s.creations), ("connection_closures", .nat s.closures),
      ("pool_hits", .nat s.hits), ("pool_misses", .nat s.misses),
      ("pool_exhaustions", .nat s.exhaustions), ("peak_connections", .nat s.peak),
      ("average_wait_time", .ofDuration s.averageWait),
      ("last_health_check", .ofOption (fun t => .text t.render) s.lastHealthCheck)]

open Json.Document in
def timestamp? (d : Json.Document) : Option Timestamp := (string? d).bind Timestamp.parse?

open Json.Document in
def ofDocument? (d : Json.Document) : Option PoolStats :=
  match d.slots? false fieldNames with
  | some [poolName, active, idle, total, waiting, errors, creations, closures, hits, misses,
      exhaustions, peak, averageWait, lastHealthCheck] => do
      return {
        poolName := ← required? string? poolName
        active := ← required? count? active
        idle := ← required? count? idle
        total := ← required? count? total
        waiting := ← required? count? waiting
        errors := ← required? count? errors
        creations := ← required? count? creations
        closures := ← required? count? closures
        hits := ← required? count? hits
        misses := ← required? count? misses
        exhaustions := ← required? count? exhaustions
        peak := ← required? count? peak
        averageWait := ← required? duration? averageWait
        lastHealthCheck := ← absentOr? timestamp? lastHealthCheck }
  | _ => none

end PoolStats
end PoolHealth
