import PoolHealth.Health.Service
import PoolHealth.Metrics.Record

/-!
# Cycles

A cycle runs all checks of a service side by side and ends when every one of them has
come to an end.  What has become of one check does not touch the others.
-/

namespace PoolHealth

/-- The checks of a cycle, with what has been found by those that are over. -/
structure Cycle where
  startedAt : Instant
  checks : List (HealthCheck × Option ComponentHealth)

namespace Cycle

def start (s : HealthService) (now : Instant) : Cycle where
  startedAt := now
  checks := s.checks.map fun c => (c, none)

/-- The measurement of a check that took `elapsed`. -/
def checkMeasurement (c : HealthCheck) (elapsed : Duration) : MetricRecord :=
  .observe Metrics.checkSeconds elapsed.toSecondsFloat [("component", c.name)]

/-- Settles the check at a place of the cycle, unless it is over already. -/
def settle (k : Cycle) (i : Nat) (now : Instant) (outcome : CheckOutcome) :
    Cycle × Option MetricRecord :=
  match k.checks[i]? with
  | some (c, none) =>
      let elapsed := now.since k.startedAt
      ({ k with checks := k.checks.set i (c, some (HealthService.settle c elapsed outcome)) },
        some (checkMeasurement c elapsed))
  | _ => (k, none)

def isComplete (k : Cycle) : Bool := k.checks.all fun c => c.2.isSome

def measurement (k : Cycle) (now : Instant) : MetricRecord :=
  .observe Metrics.cycleSeconds (now.since k.startedAt).toSecondsFloat []

/-- The result of the cycle; `wall` is the time of day. -/
def result (k : Cycle) (config : HealthConfig) (now : Instant) (wall : Timestamp)
    (correlationId : String) : CycleResult :=
  .ofComponents wall correlationId config.alertsEnabled (now.since k.startedAt)
    (k.checks.filterMap (·.2))

end Cycle
end PoolHealth
