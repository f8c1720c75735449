import PoolHealth.Config.Health
import PoolHealth.Health.Status
import PoolHealth.Pool.Stats

/-!
# Health of a component

What one check found out about one component, and the rules by which readings become
statuses and alerts.
-/

namespace PoolHealth

structure ComponentHealth where
  name : String
  type : ComponentType
  status : HealthStatus
  message : String
  responseTime : Option Duration := none
  lastCheck : Timestamp := default
  metadata : List (String × Json) := []
  errorCount : Nat := 0

namespace ComponentHealth

def withMetadata (c : ComponentHealth) (key : String) (value : Json) : ComponentHealth :=
  { c with metadata := Keyed.set key value c.metadata }

/-- The number nearest to `x` without a fraction, a half away from zero. -/
def roundHalfAway (x : Float) : Float := x.round

/-- A percentage with two decimal places. -/
def roundPercent (x : Float) : Float := roundHalfAway (x * 100.0) / 100.0

/-- A number as a finding; a number that is not finite is stored as `null`. -/
def finiteOrNull (x : Float) : Json := if x.isFinite then .real x else .null

def usageKey : String := "usage_percent"

def thresholdKey : String := "threshold_percent"

/-- Notes a usage and the threshold that it is compared with. -/
def withUsage (c : ComponentHealth) (usage threshold : Float) : ComponentHealth :=
  (c.withMetadata usageKey (finiteOrNull (roundPercent usage))).withMetadata thresholdKey
    (finiteOrNull (roundPercent threshold))

def withErrorCount (c : ComponentHealth) (n : Nat) : ComponentHealth := { c with errorCount := n }

def withResponseTime (c : ComponentHealth) (d : Duration) : ComponentHealth :=
  { c with responseTime := some d }

def usage? (c : ComponentHealth) : Option Float := (c.metadata.lookup usageKey).bind Json.asFloat?

def threshold? (c : ComponentHealth) : Option Float :=
  (c.metadata.lookup thresholdKey).bind Json.asFloat?

/-!
## Readings, statuses and alerts
-/

/-- How a usage is put into words next to its threshold. -/
def usagePhrase (usage threshold : Float) : String :=
  "pool usage at " ++ Decimal.fixedOne usage ++ "% (threshold " ++ Decimal.fixedOne threshold
    ++ "%)"

/-- The line that a component adds to the alerts, if it needs attention. -/
def alert? (c : ComponentHealth) : Option String :=
  match c.status with
  | .unhealthy => some (c.name ++ " is unhealthy: " ++ c.message)
  | .degraded =>
      let detail :=
        match c.usage?, c.threshold? with
        | some usage, some threshold => usagePhrase usage threshold
        | _, _ => c.message
      some (c.name ++ " is degraded: " ++ detail)
  | .healthy | .unknown => none

/-- The share of open connections that is lent out, zero for an empty pool. -/
def poolUsagePercent (active total : Nat) : Float :=
  if total = 0 then 0.0 else PoolStats.percentOf active total

/-- Status and message of a pool: without connections it is unhealthy, from the
threshold on it is degraded. -/
def classifyPoolUsage (active total : Nat) (threshold : Float) : HealthStatus × String :=
  if total = 0 then (.unhealthy, "no connections available")
  else
    let usage := poolUsagePercent active total
    if usage ≥ threshold then (.degraded, usagePhrase usage threshold)
    else
      (.healthy, "pool usage at " ++ Decimal.fixedOne usage ++ "% (" ++ toString active ++ "/"
        ++ toString total ++ " connections active)")

def classifyPercentage (value : Float) (t : Thresholds) : HealthStatus :=
  if value > t.unhealthyPercent then .unhealthy
  else if value > t.degradedPercent then .degraded
  else .healthy

/-!
## JSON form
-/

def fieldNames : List String :=
  ["name", "component_type", "status", "message", "response_time", "last_check", "metadata",
    "error_count"]

def toJson (c : ComponentHealth) : Json :=
  .object
    [("name", .text c.name), ("component_type", .text c.type.name),
      ("status", .text c.status.name), ("message", .text c.message),
      ("response_time", .ofOption .ofDuration c.responseTime),
      ("last_check", .text c.lastCheck.render), ("metadata", .object c.metadata),
      ("error_count", .nat c.errorCount)]

open Json.Document in
/-- Reads a component; `depth` is how deeply its document may be nested. -/
def ofDocument? (depth : Nat) (d : Json.Document) : Option ComponentHealth :=
  match d.slots? false fieldNames with
  | some [name, type, status, message, responseTime, lastCheck, metadata, errorCount] => do
      return {
        name := ← required? string? name
        type := ← required? (oneOf? ComponentType.named) type
        status := ← required? (oneOf? HealthStatus.named) status
        message := ← required? string? message
        responseTime := ← absentOr? duration? responseTime
        lastCheck := ← required? PoolStats.timestamp? lastCheck
        metadata := ← required? (entries? fun v => v.value? (depth - 2)) metadata
        errorCount := ← required? count? errorCount }
  | _ => none

end ComponentHealth
end PoolHealth
