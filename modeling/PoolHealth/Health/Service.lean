import PoolHealth.Health.Check
import PoolHealth.Health.History

/-!
# The health service

A service has checks under different names.  It keeps the latest finding on every
component, the result of the last cycle, and a history of the cycles.
-/

namespace PoolHealth

structure HealthService where
  config : HealthConfig
  /-- The checks in the order in which they were registered. -/
  checks : List HealthCheck := []
  /-- The latest finding on each component. -/
  findings : List (String × ComponentHealth) := []
  history : HealthHistory
  lastResult : Option CycleResult := none

namespace HealthService

def ofConfig (c : HealthConfig) : HealthService where
  config := c
  history := { config := c.history }

/-- Adds a check at the end, in place of one that had the name before. -/
def register (s : HealthService) (c : HealthCheck) : HealthService :=
  { s with checks := (s.checks.filter fun other => other.name != c.name) ++ [c] }

def withStandardChecks (c : HealthConfig) : HealthService :=
  (HealthCheck.standard c).foldl register (ofConfig c)

/-- The names of the checks in the order in which they were registered. -/
def checkNames (s : HealthService) : List String := s.checks.map (·.name)

def check? (s : HealthService) (name : String) : Option HealthCheck :=
  s.checks.find? fun c => c.name == name

def component? (s : HealthService) (name : String) : Option ComponentHealth :=
  s.findings.lookup name

def describe (s : HealthService) : String :=
  "HealthCheckService \x7b checks: [" ++ ", ".intercalate (s.checkNames.map Text.quote)
    ++ "], config: " ++ s.config.describe ++ " \x7d"

/-- What a check that took `elapsed` has found.  A check that gave no answer leaves its
component in an unknown state. -/
def settle (c : HealthCheck) (elapsed : Duration) : CheckOutcome -> ComponentHealth
  | .ok h => { h with responseTime := some (h.responseTime.getD elapsed) }
  | .error e =>
      ((c.plain .unknown e.message).withResponseTime elapsed).withErrorCount 1

def note (s : HealthService) (h : ComponentHealth) : HealthService :=
  { s with findings := Keyed.set h.name h s.findings }

/-- Notes the findings of a cycle, adds it to the history and keeps its result. -/
def publish (s : HealthService) (r : CycleResult) : HealthService :=
  { r.components.foldl (fun s (_, h) => s.note h) s with
    history := s.history.record r
    lastResult := some r }

theorem component?_note_self (s : HealthService) (h : ComponentHealth) :
    (s.note h).component? h.name = some h := Keyed.lookup_set_self _ _ _

theorem component?_note_of_ne (s : HealthService) {h : ComponentHealth} {name : String}
    (hne : h.name ≠ name) : (s.note h).component? name = s.component? name :=
  Keyed.lookup_set_of_ne _ _ hne

/-- Cleans the history up; `none` if the calendar does not reach back far enough. -/
def cleanup? (s : HealthService) (now : Timestamp) : Option HealthService :=
  (s.history.cleanup? now).map fun (h, _) => { s with history := h }

end HealthService
end PoolHealth
