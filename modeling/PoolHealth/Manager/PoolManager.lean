import PoolHealth.Manager.Config
import PoolHealth.Pool.Advisor
import PoolHealth.Pool.Await

/-!
# The pool manager

A manager brings up the pools of its configuration, finds them by name and shuts them
down.  It knows a pool only by a reference; what happens inside a pool is told to the
calls of the manager as the outcome of what they asked for.
-/

namespace PoolHealth

abbrev PoolRef := Nat

inductive ManagerPhase where
  | uninitialized
  | ready
  | closed
deriving DecidableEq, Repr

structure PoolManager where
  config : ManagerConfig
  /-- The pools in use, in the order of their names. -/
  pools : List (String × PoolRef) := []
  phase : ManagerPhase := .uninitialized
  /-- The lock of those who bring the pools up or shut them down. -/
  lifecycle : Semaphore := .lock
  initialized : Bool := false
  /-- Judges the pools that have no advisor of their own. -/
  defaultAdvisor : Option ThresholdAdvisor := none
  advisors : List (String × ThresholdAdvisor) := []
  /-- Tickets that have been given the lock and not yet been told. -/
  outbox : List Ticket := []

namespace PoolManager

/-- The names of the pools in use, in order. -/
def names (m : PoolManager) : List String := m.pools.map (·.1)

def find? (m : PoolManager) (name : String) : Option PoolRef := m.pools.lookup name

def appoint (m : PoolManager) (pool : String) (a : ThresholdAdvisor) : PoolManager :=
  { m with advisors := (pool, a) :: m.advisors }

def advisor? (m : PoolManager) (pool : String) : Option ThresholdAdvisor :=
  (m.advisors.lookup pool).or m.defaultAdvisor

/-- The analyses of all pools that have an advisor who can judge them. -/
def analyses (m : PoolManager) (view : PoolRef -> PoolStats × PoolConfig) :
    List (String × PoolAnalysis) :=
  m.pools.filterMap fun (name, p) => do
    let a ← m.advisor? name
    return (name, ← a.analyze? (view p).1 (view p).2)

def describe (m : PoolManager) : String :=
  "PoolManager \x7b pools: [" ++ ", ".intercalate (m.names.map Text.quote) ++ "], initialized: "
    ++ toString m.initialized ++ " \x7d"

def releaseLock (m : PoolManager) : PoolManager :=
  { m with
    lifecycle := m.lifecycle.release
    outbox := m.outbox ++ m.lifecycle.successor?.toList }

/-- The holder of a ticket stops waiting for the lock. -/
def leaveLockQueue (m : PoolManager) (t : Ticket) : PoolManager :=
  { m with
    lifecycle := m.lifecycle.leave t
    outbox := m.outbox ++ (m.lifecycle.successorOnLeave? t).toList }

end PoolManager
end PoolHealth
