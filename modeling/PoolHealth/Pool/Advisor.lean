import PoolHealth.Config.Pool
import PoolHealth.Decimal.Layout
import PoolHealth.Pool.Stats

/-!
# Advice on pool settings

An advisor reads the counters of a pool and its configuration and gives two scores
and a list of recommendations.  It changes nothing.  It has no advice on counters whose
sum cannot be counted.
-/

namespace PoolHealth

structure PoolAnalysis where
  poolName : String
  /-- Connections lent out as a share of the largest number. -/
  utilization : Float
  /-- Requests served by idle connections, in percent. -/
  efficiency : Float
  recommendations : List String

namespace PoolAnalysis

def toJson (a : PoolAnalysis) : Json :=
  .object [("pool_name", .text a.poolName), ("utilization_score", .real a.utilization),
    ("efficiency_score", .real a.efficiency),
    ("recommendations", .ofList .text a.recommendations)]

open Json.Document in
def ofDocument? (d : Json.Document) : Option PoolAnalysis :=
  match d.slots? false
      ["pool_name", "utilization_score", "efficiency_score", "recommendations"] with
  | some [poolName, utilization, efficiency, recommendations] => do
      return ⟨← required? string? poolName, ← required? float? utilization,
        ← required? float? efficiency, ← required? (list? string?) recommendations⟩
  | _ => none

end PoolAnalysis

structure ThresholdAdvisor where
  highUtilizationPercent : Float := 80.0
  lowUtilizationPercent : Float := 20.0
  maxErrorRate : Float := 0.05
  minEfficiencyPercent : Float := 50.0

namespace ThresholdAdvisor

def utilization (stats : PoolStats) (config : PoolConfig) : Float :=
  stats.capacityPercent config.maxSize.toNat

/-- The efficiency score of a pool that has served so many requests. -/
def efficiency (stats : PoolStats) (served : Nat) : Float := stats.shareOfHits served * 100.0

/-- Advice when callers found no slot, or nearly all slots are taken. -/
def adviseOnSize (a : ThresholdAdvisor) (stats : PoolStats) (config : PoolConfig) : List String :=
  let score := utilization stats config
  if stats.exhaustions > 0 then
    ["increase max_size: pool was exhausted " ++ toString stats.exhaustions ++ " time(s)"]
  else if score ≥ a.highUtilizationPercent then
    ["increase max_size: utilization at " ++ Decimal.fixedOne score ++ "%"]
  else []

def adviseOnIdling (a : ThresholdAdvisor) (stats : PoolStats) (config : PoolConfig) :
    List String :=
  let score := utilization stats config
  if score ≤ a.lowUtilizationPercent && decide (stats.total > max config.minSize.toNat 1) then
    ["pool underutilized: " ++ toString stats.total ++ " connections open at "
      ++ Decimal.fixedOne score ++ "% utilization, consider lowering min_size"]
  else []

def adviseOnErrors (a : ThresholdAdvisor) (stats : PoolStats) (attempts : Nat) : List String :=
  if attempts = 0 then []
  else
    let rate := PoolStats.countFloat stats.errors / PoolStats.countFloat attempts
    if rate > a.maxErrorRate then
      ["investigate backend errors: " ++ Decimal.fixedOne (rate * 100.0)
        ++ "% of connection attempts failed"]
    else []

def adviseOnReuse (a : ThresholdAdvisor) (stats : PoolStats) (served : Nat) : List String :=
  let score := efficiency stats served
  if decide (served ≥ 10) && score < a.minEfficiencyPercent then
    ["connections are rarely reused (" ++ Decimal.fixedOne score
      ++ "% hits), consider raising idle_timeout or min_size"]
  else []

/-- Advice when callers wait for more than half of the time that they may. -/
def adviseOnWaiting (stats : PoolStats) (config : PoolConfig) : List String :=
  if config.connectionTimeout.share 2 < stats.averageWait ∧ Duration.zero < stats.averageWait then
    ["average wait " ++ toString stats.averageWait.millis
      ++ "ms is close to connection_timeout"]
  else []

/-- Scores and advice for a pool that has served so many requests and made so many
attempts. -/
def adviseOn (a : ThresholdAdvisor) (stats : PoolStats) (config : PoolConfig)
    (served attempts : Nat) : PoolAnalysis where
  poolName := stats.poolName
  utilization := utilization stats config
  efficiency := efficiency stats served
  recommendations :=
    a.adviseOnSize stats config ++ a.adviseOnIdling stats config
      ++ a.adviseOnErrors stats attempts ++ a.adviseOnReuse stats served
      ++ adviseOnWaiting stats config

/-- Scores and advice for a pool, if its requests and its errors can be counted
together. -/
def analyze? (a : ThresholdAdvisor) (stats : PoolStats) (config : PoolConfig) :
    Option PoolAnalysis := do
  let served ← stats.served?
  let attempts ← Count.sum? [served, stats.errors]
  return a.adviseOn stats config served attempts

end ThresholdAdvisor
end PoolHealth
