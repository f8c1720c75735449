import PoolHealth.Scenario.Session

/-!
# Sessions with a system

The steps of a session with a manager of several pools and, once one has been built, a
health service over them, and what is seen after each step.
-/

namespace PoolHealth
namespace Scenario

/-- A pool that the manager is to bring up, with the script of its backend. -/
structure SystemPool where
  definition : PoolDefinition
  backend : ScriptedBackend
  blueprint : Blueprint

inductive SystemStep where
  | bringUp (copies : Nat)
  | closeAll (copies : Nat)
  | stats
  | checkAll
  | pool (name : String)
  /-- Whether the pool has connections of the kind that is asked for. -/
  | typed (name : String) (matching : Bool)
  | shutDownPool (name : String)
  | warmUpPool (name : String)
  /-- Borrows a connection of a kind, which may or may not be that of the pool. -/
  | acquire (name label : String) (matching : Bool) (kind : String)
  | release (label : String)
  | releaseAll
  | markBroken (label : String)
  | change (name : String) (f : ScriptedBackend -> ScriptedBackend)
  | counters (name : String)
  | appoint (name : String) (a : ThresholdAdvisor)
  | analyze
  | describeManager
  | advance (ms : Nat)
  | metrics
  | breakSink (breaks : Bool)
  | build (c : HealthConfig) (standard measured : Bool)
  | registerScript (name : String) (type : ComponentType) (entries : List (Nat × ScriptAct))
  | register (c : HealthCheck)
  | checkNames
  | perform (copies : Nat)
  | component (name : String)
  | last
  | history (hours : UInt32)
  | recover (name : String)
  | start
  | stop
  | lateMetrics
  | serviceConfig
  | describeService

structure PoolCard where
  name : String
  kind : BackendKind
  phase : PoolPhase
  maxSize : Nat

inductive SystemResult where
  | nothing
  | brokeDown
  | noService
  | flag (b : Bool)
  | count (n : Nat)
  | text (s : String)
  | names (ss : List String)
  | broughtUp (rs : List (Except ManagerError Unit))
  | stats (ss : List (String × PoolStats))
  | verdicts (vs : List (String × Bool))
  | pool (p : PoolCard)
  | switched (r : Except PoolError Unit)
  | lent (r : Except ManagerError Nat)
  | counters (b : ScriptedBackend)
  | analyses (l : List (String × PoolAnalysis))
  | records (rs : List MetricRecord)
  | built (r : Except ServiceError Unit)
  | cycles (rs : List CycleResult)
  | cycle (r : CycleResult)
  | component (h : ComponentHealth)
  | history (es : List HistoryEntry)
  | recovered (r : Except CheckError ComponentHealth)
  | config (c : HealthConfig)

structure SystemView where
  result : SystemResult
  now : Nat
  initialized : Bool
  pools : List String
  /-- The length of the history and whether the service monitors, if there is one. -/
  service : Option (Nat × Bool)

def findPool (name : String) : Run (Option (PoolRef × PoolSite)) := do
  let w := (← get).world
  return do
    let p ← w.manager.find? name
    return (p, ← w.pools[p]?)

/-- The service that was built last. -/
def currentService : Run (Option (ServiceRef × ServiceSite)) := do
  let services := (← get).world.services
  return services.back?.map fun site => (services.size - 1, site)

def runJob (j : Job) : Run (Option TaskEnd) := inWorld (complete [.ofJob j])

/-- Asks a pool for something that switches it on or off. -/
def switchPool (name : String) (r : PoolRequest) : Run SystemResult := do
  match ← findPool name with
  | none => return .nothing
  | some (p, _) =>
      match ← runJob (.pool p r) with
      | some (.finished [.pool _ (.switched r)]) => return .switched r
      | _ => return .brokeDown

def borrow (name label : String) (matching : Bool) (kind : String) : Run SystemResult := do
  match ← findPool name with
  | none => return .lent (.error (.poolNotFound name))
  | some (p, site) =>
      if !matching || site.backend.isNone then
        return .lent (.error (.backendMismatch name kind))
      match ← runJob (.pool p .acquire) with
      | some (.finished [.pool _ (.lent (.ok l))]) =>
          inWorld (hold label ⟨p, l⟩)
          return .lent (.ok l.connection.id)
      | some (.finished [.pool _ (.lent (.error e))]) => return .lent (.error (.pool e))
      | _ => return .brokeDown

/-- Builds a service in place of the one before, whose monitoring ends. -/
def buildService (c : HealthConfig) (standard measured : Bool) : Run SystemResult := do
  match c.fault? with
  | some e => return .built (.error (.config e))
  | none =>
      if !HealthHistory.fits c.history then return .brokeDown
      let service := if standard then HealthService.withStandardChecks c else .ofConfig c
      match ← currentService with
      | some (s, _) => discard (inWorld (stopLoop s))
      | none => pure ()
      inWorld (modify fun w =>
        { w with services := w.services.push { service := service, measured := measured } })
      return .built (.ok ())

def changeService (s : ServiceRef) (f : ServiceSite -> ServiceSite) : Run Unit :=
  inWorld (modifyService s f)

def registerScript (s : ServiceRef) (name : String) (type : ComponentType)
    (entries : List (Nat × ScriptAct)) : Run Unit := do
  let id := (← get).world.scripts.size
  inWorld
    (modify fun w => { w with scripts := w.scripts.push { name := name, entries := entries } })
  changeService s fun site =>
    { site with service := site.service.register ⟨name, type, .outside id⟩ }

def cyclesOf (outcomes : List Outcome) : List CycleResult :=
  outcomes.filterMap fun
    | .cycle r => some r
    | _ => none

/-- Starts monitoring, unless it is going on already. -/
def startMonitoring (s : ServiceRef) (site : ServiceSite) : Run Unit := do
  let (monitor, r) := site.monitor.start
  match r with
  | none => return
  | some r =>
      let t ← inWorld (spawnDetached (.monitoring s r))
      changeService s fun site =>
        { site with monitor := monitor, loopTasks := (r, t) :: site.loopTasks }

def performServiceStep (s : ServiceRef) (site : ServiceSite) : SystemStep -> Run SystemResult
  | .registerScript name type entries => do
      registerScript s name type entries
      return .nothing
  | .register c => do
      changeService s fun site => { site with service := site.service.register c }
      return .nothing
  | .checkNames => return .names site.service.checkNames
  | .perform copies => do
      match ← inWorld (complete (List.replicate copies (.ofJob (.cycle s)))) with
      | some (.finished outcomes) => return .cycles (cyclesOf outcomes)
      | _ => return .brokeDown
  | .component name =>
      match site.service.component? name with
      | some h => return .component h
      | none => return .nothing
  | .last =>
      match site.service.lastResult with
      | some r => return .cycle r
      | none => return .nothing
  | .history hours => do
      let now ← inWorld readWall
      match site.service.history.lastHours? now hours with
      | some es => return .history es
      | none => return .brokeDown
  | .recover name => do
      match ← runJob (.recovery s name) with
      | some (.finished [.recovered r]) => return .recovered r
      | _ => return .brokeDown
  | .start => do
      startMonitoring s site
      return .nothing
  | .stop => do
      discard (runJob (.stopMonitoring s))
      return .nothing
  | .lateMetrics => do
      if site.monitor.loops.isEmpty then
        changeService s fun site => { site with measured := true }
      return .nothing
  | .serviceConfig => return .config site.service.config
  | .describeService => return .text site.service.describe
  | _ => return .nothing

def performSystemStep (step : SystemStep) : Run SystemResult := do
  let w := (← get).world
  match step with
  | .bringUp copies =>
      match ← inWorld (complete (List.replicate copies (.ofJob .bringUp))) with
      | some (.finished outcomes) =>
          return .broughtUp (outcomes.filterMap fun
            | .broughtUp r => some r
            | _ => none)
      | _ => return .brokeDown
  | .closeAll copies =>
      discard (inWorld (complete (List.replicate copies (.ofJob .closeAll))))
      return .nothing
  | .stats => return .stats (w.manager.pools.map fun (name, p) => (name, (poolView w p).2))
  | .checkAll =>
      match ← runJob .checkAll with
      | some (.finished [.verdicts vs]) => return .verdicts vs
      | _ => return .brokeDown
  | .pool name =>
      match ← findPool name with
      | some (p, site) =>
          return .pool ⟨site.pool.name, (poolView w p).1, site.pool.phase,
            site.pool.config.maxSize.toNat⟩
      | none => return .nothing
  | .typed name matching =>
      match ← findPool name with
      | some (_, site) => return .flag (matching && site.backend.isSome)
      | none => return .flag false
  | .shutDownPool name => switchPool name .shutDown
  | .warmUpPool name => switchPool name .warmUp
  | .acquire name label matching kind => borrow name label matching kind
  | .release label => return .flag (← inWorld (Scenario.release label true))
  | .releaseAll => return .count (← inWorld Scenario.releaseAll)
  | .markBroken label => return .flag (← inWorld (Scenario.markBroken label))
  | .change name f =>
      changeBackend name f
      return .nothing
  | .counters name =>
      match w.backends.lookup name with
      | some b => return .counters b
      | none => return .nothing
  | .appoint name a =>
      inWorld (modify fun w => { w with manager := w.manager.appoint name a })
      return .nothing
  | .analyze =>
      return .analyses (w.manager.analyses fun p =>
        ((poolView w p).2, (w.pools[p]?.map fun s => s.pool.config).getD (.named "")))
  | .describeManager => return .text w.manager.describe
  | .advance ms =>
      inWorld (Scenario.advance ms)
      return .nothing
  | .metrics => return .records (← newRecords)
  | .breakSink breaks =>
      inWorld (modify fun w => { w with sinkBreaks := breaks })
      return .nothing
  | .build c standard measured => buildService c standard measured
  | step =>
      match ← currentService with
      | some (s, site) => performServiceStep s site step
      | none => return .noService

/-- Performs a step and shows what is seen after it. -/
def showSystemStep (step : SystemStep) : Run SystemView := do
  let result ← performSystemStep step
  settleWorld
  let w := (← get).world
  let service ← currentService
  return {
    result := result
    now := w.now
    initialized := w.manager.initialized
    pools := w.manager.names
    service := service.map fun (_, site) =>
      (site.service.history.entries.length, site.monitor.isMonitoring) }

/-- A session with a manager of pools over scripted backends, or without any backends. -/
def systemSession (pools : List SystemPool) (advisor : Option ThresholdAdvisor)
    (withoutBackends : Bool) : Session where
  world :=
    { manager := { config := ⟨pools.map (·.definition)⟩, defaultAdvisor := advisor }
      backends := pools.map fun p => (p.definition.name, p.backend)
      blueprints := pools.map (·.blueprint)
      withoutBackends := withoutBackends }

def runSystemSteps (pools : List SystemPool) (advisor : Option ThresholdAdvisor)
    (withoutBackends : Bool) (steps : List SystemStep) : List SystemView :=
  ((steps.mapM showSystemStep).run (systemSession pools advisor withoutBackends)).1

/-- Brings the pools of a configuration up where no backends are compiled in. -/
def bringUpWithoutBackends (c : ManagerConfig) : Except ManagerError Unit :=
  let pools := c.pools.map fun d => (⟨d, {}, { name := d.name }⟩ : SystemPool)
  match runSystemSteps pools none true [.bringUp 1] with
  | [⟨.broughtUp [r], _, _, _, _⟩] => r
  | _ => .ok ()

end Scenario
end PoolHealth
