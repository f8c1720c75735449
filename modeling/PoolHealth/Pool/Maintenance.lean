import PoolHealth.Pool.Checkup

/-!
# Maintenance

A pool that is ready checks itself at regular times.  A tick that comes in good time
leaves the rhythm as it is; after one that comes late the next is a whole interval
away.
-/

namespace PoolHealth

inductive Maintenance where
  /-- Waits for the tick that is due then. -/
  | resting (due : Instant)
  /-- Checks the pool; the next tick is due then. -/
  | checking (due : Instant) (k : Checkup)
deriving DecidableEq

namespace Maintenance

/-- By how much a tick may be late without a change of the rhythm. -/
def toleranceNanos : Nat := 5 * Duration.nanosPerMilli

/-- The time from which the interval after a tick is counted: when the tick was due, or
when it is handled if that is late. -/
def rhythm (due now : Instant) : Instant :=
  if due.nanos + toleranceNanos < now.nanos then now else due

/-- When the tick after one that was due is due, if that one is handled now. -/
def nextDue (interval : Duration) (due now : Instant) : Instant :=
  ⟨min ((rhythm due now).nanos + interval.nanos) (now.nanos + Duration.longestWait.nanos)⟩

def start (interval : Duration) (now : Instant) : Maintenance :=
  resting (nextDue interval now now)

def settle (due : Instant) :
    ConnectionPool × Progress Checkup Bool -> ConnectionPool × Maintenance
  | (p, .waiting k) => (p, checking due k)
  | (p, .done _) => (p, resting due)

def tick (p : ConnectionPool) (due now : Instant) : ConnectionPool × Maintenance :=
  settle (nextDue p.config.healthCheckInterval due now) (Checkup.start p now)

def step (p : ConnectionPool) (now : Instant) :
    Maintenance -> Reply -> ConnectionPool × Maintenance
  | resting due, .stirred => tick p due now
  | resting due, _ => (p, resting due)
  | checking due k, r => settle due (k.step p now r)

def cancel (p : ConnectionPool) (now : Instant) : Maintenance -> ConnectionPool
  | resting _ => p
  | checking _ k => k.cancel p now

end Maintenance
end PoolHealth
