/-!
# Health statuses

The four statuses of a component, their order by severity, and the kinds of
components.
-/

namespace PoolHealth

/-- How a component is doing; `unknown` means that its check gave no answer. -/
inductive HealthStatus where
  | healthy
  | degraded
  | unhealthy
  | unknown
deriving DecidableEq, Repr, Inhabited

namespace HealthStatus

def all : List HealthStatus := [healthy, degraded, unhealthy, unknown]

def name : HealthStatus -> String
  | healthy => "healthy"
  | degraded => "degraded"
  | unhealthy => "unhealthy"
  | unknown => "unknown"

def named : List (String × HealthStatus) := all.map fun s => (s.name, s)

/-- The weight of a status where several are summed up. -/
def priority : HealthStatus -> Nat
  | unhealthy => 3
  | degraded => 2
  | healthy => 1
  | unknown => 0

def worse (a b : HealthStatus) : HealthStatus := if a.priority ≤ b.priority then b else a

/-- The weightiest status of a list, and `unknown` if there is none. -/
def worst : List HealthStatus -> HealthStatus
  | [] => unknown
  | s :: rest => worse s (worst rest)

def isHealthy (s : HealthStatus) : Bool := s == healthy

def isDegraded (s : HealthStatus) : Bool := s == degraded

def isUnhealthy (s : HealthStatus) : Bool := s == unhealthy

def isOperational (s : HealthStatus) : Bool := s == healthy || s == degraded

end HealthStatus

inductive ComponentType where
  | database
  | cache
  | externalApi
  | fileSystem
  | memory
  | cpu
  | connectionPool
  | other
deriving DecidableEq, Repr, Inhabited

namespace ComponentType

def all : List ComponentType :=
  [database, cache, externalApi, fileSystem, memory, cpu, connectionPool, other]

def name : ComponentType -> String
  | database => "database"
  | cache => "cache"
  | externalApi => "external_api"
  | fileSystem => "file_system"
  | memory => "memory"
  | cpu => "cpu"
  | connectionPool => "connection_pool"
  | other => "other"

def named : List (String × ComponentType) := all.map fun t => (t.name, t)

end ComponentType
end PoolHealth
