import PoolHealth.Health.Error
import PoolHealth.Health.Host
import PoolHealth.Manager.Call

/-!
# Checks of components

A check looks at one component and says how it is.  Most checks look at pools of a
manager: they ask a pool, or all of them, to check themselves and put the verdicts and
the counters together.  A pool that the manager does not have is not configured, and
that is no fault.
-/

namespace PoolHealth

inductive CheckSubject where
  /-- The pool of the database, which may be busy up to a threshold in percent. -/
  | databasePool (pool : String) (threshold : Float)
  /-- A pool that is well or not. -/
  | singlePool (pool : String)
  /-- All pools, which together may be busy up to a share in percent. -/
  | allPools (capacityPercent : Float)
  | fileSystem
  | memory
  | cpu
  /-- Something outside, known by its number. -/
  | outside (id : Nat)

structure HealthCheck where
  name : String
  type : ComponentType
  subject : CheckSubject

namespace HealthCheck

def database (pool : String) (threshold : Float) : HealthCheck :=
  ⟨"database", .database, .databasePool pool threshold⟩

def probe (name : String) (type : ComponentType) (pool : String) : HealthCheck :=
  ⟨name, type, .singlePool pool⟩

def cache : HealthCheck := probe "cache" .cache ManagerConfig.cachePool

def externalApi : HealthCheck := probe "external_api" .externalApi ManagerConfig.httpPool

def connectionPools (capacityPercent : Float) : HealthCheck :=
  ⟨"connection_pools", .connectionPool, .allPools capacityPercent⟩

/-- The checks of a service unless others are asked for. -/
def standard (c : HealthConfig) : List HealthCheck :=
  [database ManagerConfig.databasePool c.databaseThresholdPercent, cache,
    connectionPools c.poolCapacityPercent, ⟨"file_system", .fileSystem, .fileSystem⟩,
    ⟨"memory", .memory, .memory⟩, ⟨"cpu", .cpu, .cpu⟩, externalApi]

/-!
## What the findings say
-/

def plain (c : HealthCheck) (status : HealthStatus) (message : String) : ComponentHealth where
  name := c.name
  type := c.type
  status := status
  message := message

/-- The component of a pool that is not there. -/
def notConfigured (c : HealthCheck) : ComponentHealth :=
  c.plain .healthy (c.name ++ " not configured")

/-- What is said of a pool that did not pass. -/
def failedProbe (pool : String) : String := "pool '" ++ pool ++ "' failed its health probe"

def databaseHealth (c : HealthCheck) (pool : String) (threshold : Float) (healthy : Bool)
    (s : PoolStats) : ComponentHealth :=
  let (status, message) :=
    if healthy then ComponentHealth.classifyPoolUsage s.active s.total threshold
    else (.unhealthy, failedProbe pool)
  let h :=
    (c.plain status message).withUsage (ComponentHealth.poolUsagePercent s.active s.total)
      threshold
  let findings : List (String × Json) :=
    [("active_connections", .nat s.active), ("idle_connections", .nat s.idle),
      ("total_connections", .nat s.total), ("pool_exhaustions", .nat s.exhaustions)]
  (findings.foldl (fun h (key, value) => h.withMetadata key value) h).withErrorCount s.errors

def probeHealth (c : HealthCheck) (pool : String) (kind : BackendKind) (healthy : Bool)
    (s : PoolStats) : ComponentHealth :=
  let h :=
    if healthy then c.plain .healthy ("pool '" ++ pool ++ "' is responding")
    else c.plain .unhealthy (failedProbe pool)
  let findings : List (String × Json) :=
    [("backend", .text kind.name), ("total_connections", .nat s.total),
      ("hit_ratio", .ofOption .real s.hitRatio?)]
  (findings.foldl (fun h (key, value) => h.withMetadata key value) h).withErrorCount s.errors

def classifyPools (capacityPercent : Float) (active total : Nat) (failing : List String) :
    HealthStatus × String :=
  let share := toString active ++ "/" ++ toString total
  if total = 0 then (.unhealthy, "no pooled connections available")
  else if !failing.isEmpty then
    (.degraded, "pools failing health probe: " ++ ", ".intercalate failing)
  else if PoolStats.countFloat active > PoolStats.countFloat total * capacityPercent / 100.0 then
    (.degraded, "connection pools near capacity: " ++ share)
  else (.healthy, "connection pools healthy: " ++ share)

/-- All pools after their checks: the verdicts, and the counters afterwards. -/
def poolsHealth (c : HealthCheck) (capacityPercent : Float) (verdicts : List (String × Bool))
    (stats : List PoolStats) : ComponentHealth :=
  let total := Count.total (stats.map (·.total))
  let active := Count.total (stats.map (·.active))
  let failing := ((verdicts.filter fun v => !v.2).map (·.1)).mergeSort fun a b => !decide (b < a)
  let (status, message) := classifyPools capacityPercent active total failing
  let findings : List (String × Json) :=
    [("pools", .nat stats.length), ("active_connections", .nat active),
      ("total_connections", .nat total), ("failing_pools", .ofList .text failing)]
  (findings.foldl (fun h (key, value) => h.withMetadata key value)
    (c.plain status message)).withErrorCount (Count.total (stats.map (·.errors)))

end HealthCheck

/-!
## Running a check
-/

/-- What a check knows of a pool besides its verdict. -/
abbrev PoolView := PoolRef -> BackendKind × PoolStats

inductive CheckRun where
  | probing (p : PoolRef)
  | probingAll (k : CheckAll)
  | asking (id : Nat)
deriving DecidableEq

inductive CheckReply where
  | poolChecked (healthy : Bool)
  | allChecked (verdicts : List (Option Bool))
  | answered (r : Except CheckError ComponentHealth)

abbrev CheckOutcome := Except CheckError ComponentHealth

namespace CheckRun

/-- Begins to check a pool, unless the manager does not have it. -/
def ofPool (c : HealthCheck) (m : PoolManager) (pool : String) : Progress CheckRun CheckOutcome :=
  match m.find? pool with
  | none => .done (.ok c.notConfigured)
  | some p => .waiting (probing p)

def start (c : HealthCheck) (config : HealthConfig) (host : Host.Readings) (m : PoolManager) :
    Progress CheckRun CheckOutcome :=
  match c.subject with
  | .databasePool pool _ => ofPool c m pool
  | .singlePool pool => ofPool c m pool
  | .allPools _ =>
      if m.pools.isEmpty then .done (.ok (c.plain .healthy "no connection pools configured"))
      else .waiting (probingAll (.start m))
  | .fileSystem =>
      .done (.ok (Host.fileSystem config.disk (config.probeDir.getD host.tempDir) host.disk
        host.target))
  | .memory =>
      .done (Host.checkMemory config.memory host.memoryPercent host.memoryAvailableGiB
        host.memoryTotalGiB)
  | .cpu => .done (.ok (Host.cpu config.cpu host.cpuPercent host.cores))
  | .outside id => .waiting (asking id)

/-- Goes on after a wait; counters are read when the verdicts are there. -/
def step (c : HealthCheck) (m : PoolManager) (view : PoolView) :
    CheckRun -> CheckReply -> Progress CheckRun CheckOutcome
  | probing p, .poolChecked healthy =>
      let (kind, stats) := view p
      match c.subject with
      | .databasePool pool threshold =>
          .done (.ok (c.databaseHealth pool threshold healthy stats))
      | .singlePool pool => .done (.ok (c.probeHealth pool kind healthy stats))
      | _ => .waiting (probing p)
  | probingAll k, .allChecked vs =>
      match c.subject with
      | .allPools capacityPercent =>
          .done (.ok (c.poolsHealth capacityPercent (k.verdicts vs)
            (m.pools.map fun q => (view q.2).2)))
      | _ => .waiting (probingAll k)
  | asking _, .answered r => .done r
  | r, _ => .waiting r

end CheckRun
end PoolHealth
