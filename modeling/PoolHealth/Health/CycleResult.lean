import PoolHealth.Health.Component

/-!
# Results of a health cycle

A cycle checks every component once.  Its result holds the components by name, the
worst status, how many components have each status, and the alerts.
-/

namespace PoolHealth

structure HealthSummary where
  healthy : Nat := 0
  degraded : Nat := 0
  unhealthy : Nat := 0
  unknown : Nat := 0
deriving DecidableEq

namespace HealthSummary

def add (s : HealthSummary) : HealthStatus -> HealthSummary
  | .healthy => { s with healthy := s.healthy + 1 }
  | .degraded => { s with degraded := s.degraded + 1 }
  | .unhealthy => { s with unhealthy := s.unhealthy + 1 }
  | .unknown => { s with unknown := s.unknown + 1 }

def ofStatuses (statuses : List HealthStatus) : HealthSummary := statuses.foldl add {}

/-- The number of components, if it can be counted. -/
def total? (s : HealthSummary) : Option Nat :=
  Count.sum? [s.healthy, s.degraded, s.unhealthy, s.unknown]

def toJson (s : HealthSummary) : Json :=
  .object [("healthy", .nat s.healthy), ("degraded", .nat s.degraded),
    ("unhealthy", .nat s.unhealthy), ("unknown", .nat s.unknown)]

open Json.Document in
def ofDocument? (d : Json.Document) : Option HealthSummary :=
  match d.slots? false ["healthy", "degraded", "unhealthy", "unknown"] with
  | some [healthy, degraded, unhealthy, unknown] => do
      return ⟨← required? count? healthy, ← required? count? degraded,
        ← required? count? unhealthy, ← required? count? unknown⟩
  | _ => none

end HealthSummary

structure CheckPerformance where
  totalCheckTime : Duration
  componentsChecked : Nat
  timestamp : Timestamp
deriving DecidableEq

namespace CheckPerformance

def toJson (p : CheckPerformance) : Json :=
  .object [("total_check_time", .ofDuration p.totalCheckTime),
    ("components_checked", .nat p.componentsChecked), ("timestamp", .text p.timestamp.render)]

open Json.Document in
def ofDocument? (d : Json.Document) : Option CheckPerformance :=
  match d.slots? false ["total_check_time", "components_checked", "timestamp"] with
  | some [totalCheckTime, componentsChecked, timestamp] => do
      return ⟨← required? duration? totalCheckTime, ← required? count? componentsChecked,
        ← required? PoolStats.timestamp? timestamp⟩
  | _ => none

end CheckPerformance

structure CycleResult where
  timestamp : Timestamp
  correlationId : String
  overall : HealthStatus
  components : List (String × ComponentHealth)
  summary : HealthSummary
  alerts : List String
  performance : CheckPerformance

namespace CycleResult

/-- Components by their reported names; of components with the same name the last one
counts. -/
def byName (components : List ComponentHealth) : List (String × ComponentHealth) :=
  components.foldl (fun acc c => Keyed.set c.name c acc) []

def statuses (r : CycleResult) : List (String × HealthStatus) :=
  r.components.map fun (name, c) => (name, c.status)

/-- The alerts of the components in the order of their texts. -/
def alertsOf (components : List (String × ComponentHealth)) : List String :=
  (components.filterMap fun (_, c) => c.alert?).mergeSort fun a b => !decide (b < a)

/-- The result that sums up the components of a cycle. -/
def ofComponents (timestamp : Timestamp) (correlationId : String) (alertsEnabled : Bool)
    (elapsed : Duration) (found : List ComponentHealth) : CycleResult :=
  let components := byName found
  let statuses := components.map fun (_, c) => c.status
  { timestamp := timestamp
    correlationId := correlationId
    overall := .worst statuses
    components := components
    summary := .ofStatuses statuses
    alerts := if alertsEnabled then alertsOf components else []
    performance := ⟨elapsed, components.length, timestamp⟩ }

/-- The status code that a web server answers with; a degraded system still works. -/
def httpStatus (r : CycleResult) : Nat := if r.overall.isOperational then 200 else 503

/-!
## JSON form
-/

def toJson (r : CycleResult) : Json :=
  .object
    [("timestamp", .text r.timestamp.render), ("correlation_id", .text r.correlationId),
      ("overall_status", .text r.overall.name),
      ("components", .object (r.components.map fun (name, c) => (name, c.toJson))),
      ("summary", r.summary.toJson), ("alerts", .ofList .text r.alerts),
      ("performance", r.performance.toJson)]

open Json.Document in
/-- Reads a result; `depth` is how deeply its document may be nested. -/
def ofDocument? (depth : Nat) (d : Json.Document) : Option CycleResult :=
  match d.slots? false
      ["timestamp", "correlation_id", "overall_status", "components", "summary", "alerts",
        "performance"] with
  | some [timestamp, correlationId, overall, components, summary, alerts, performance] => do
      return {
        timestamp := ← required? PoolStats.timestamp? timestamp
        correlationId := ← required? string? correlationId
        overall := ← required? (oneOf? HealthStatus.named) overall
        components := ← required? (entries? (ComponentHealth.ofDocument? (depth - 2))) components
        summary := ← required? HealthSummary.ofDocument? summary
        alerts := ← required? (list? string?) alerts
        performance := ← required? CheckPerformance.ofDocument? performance }
  | _ => none

end CycleResult
end PoolHealth
