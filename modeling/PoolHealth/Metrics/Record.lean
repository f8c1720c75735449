import PoolHealth.Decimal.Layout

/-!
# Metrics

The measurements that pools and the health service report, their names, and a sink
that keeps every one of them.
-/

namespace PoolHealth

/-- What a measurement is: a sample of a distribution, a step of a counter or the
value of a gauge. -/
inductive MetricKind where
  | observation
  | counter
  | gauge
deriving DecidableEq, Repr

namespace MetricKind

def name : MetricKind -> String
  | observation => "observation"
  | counter => "counter"
  | gauge => "gauge"

end MetricKind

abbrev Labels := List (String × String)

structure MetricRecord where
  kind : MetricKind
  name : String
  value : Float
  labels : Labels

namespace MetricRecord

def observe (name : String) (value : Float) (labels : Labels) : MetricRecord :=
  ⟨.observation, name, value, labels⟩

def increment (name : String) (labels : Labels) : MetricRecord := ⟨.counter, name, 1.0, labels⟩

def setGauge (name : String) (value : Float) (labels : Labels) : MetricRecord :=
  ⟨.gauge, name, value, labels⟩

def label? (r : MetricRecord) (key : String) : Option String := r.labels.lookup key

end MetricRecord

namespace Metrics

/-- Waiting times of successful requests, by pool. -/
def acquireSeconds : String := "reservoir_pool_acquire_seconds"

/-- Requests that waited in vain, by pool. -/
def exhaustionsTotal : String := "reservoir_pool_exhaustions_total"

/-- Failed creations and validations, by pool. -/
def connectionErrorsTotal : String := "reservoir_pool_connection_errors_total"

/-- One after a good health check of a pool, zero after a bad one. -/
def poolHealthy : String := "reservoir_pool_healthy"

/-- Durations of checks, by component. -/
def checkSeconds : String := "reservoir_health_check_seconds"

def cycleSeconds : String := "reservoir_health_cycle_seconds"

/-- The upper bounds of the buckets of a distribution, in seconds. -/
def latencyBuckets : List Float :=
  [0.005, 0.01, 0.02, 0.05, 0.1, 0.2, 0.5, 1.0, 2.5, 5.0, 10.0]

/-- The measurements with a given name, in order. -/
def withName (name : String) (records : List MetricRecord) : List MetricRecord :=
  records.filter fun r => r.name == name

end Metrics
end PoolHealth
