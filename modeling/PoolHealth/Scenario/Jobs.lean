import PoolHealth.Scenario.World

/-!
# Jobs

How a job begins, what its parts wait for, and how they go on.  A part may wait, hand
over to another job and wait for its outcome, end, or break down.
-/

namespace PoolHealth
namespace Scenario

inductive Move where
  | wait (f : Frame)
  /-- Waits for the outcome of a job. -/
  | call (f : Frame) (j : Job)
  | done (o : Outcome)
  | broken

inductive Signal where
  | reply (r : Reply)
  /-- The job that it has waited for has ended. -/
  | outcome (o : Outcome)

inductive Wait where
  | nothing
  | slot (p : PoolRef) (t : Ticket)
  | poolLock (p : PoolRef) (t : Ticket)
  | managerLock (t : Ticket)
  /-- The backend of a pool does something. -/
  | backend (p : PoolRef) (a : Await)
  | pause (d : Duration)
  /-- The tick of a pool's maintenance, or the end of its round. -/
  | tick (p : PoolRef) (round : Nat) (due : Instant)
  /-- All of the tasks have ended. -/
  | tasks (ts : List TaskId)
  /-- One of the tasks has ended. -/
  | someTask (ts : List TaskId)
  /-- The pause of a monitoring loop, or its end. -/
  | loopPause (s : ServiceRef) (r : LoopRef) (d : Duration)

/-!
## Waiting
-/

/-- What a call of a pool waits for, with its surroundings. -/
def poolWait (w : World) (p : PoolRef) : Await -> Wait
  | .slot t => .slot p t
  | .lifecycle t => .poolLock p t
  | .maintenanceEnd => .tasks ((w.pools[p]?.bind (·.retired)).toList)
  | .pause d => .pause d
  | a => .backend p a

def configOf (w : World) (p : PoolRef) : PoolConfig :=
  (w.pools[p]?.map fun s => s.pool.config).getD (.named "")

/-- The tasks of a cycle whose checks are not over. -/
def openTasks (k : Cycle) (tasks : List TaskId) : List TaskId :=
  (k.checks.zip tasks).filterMap fun ((_, found), t) => if found.isNone then some t else none

def stageOf (w : World) (s : ServiceRef) (r : LoopRef) : Option LoopStage :=
  (w.services[s]?.bind fun site => site.monitor.loop? r).map (·.stage)

def Frame.wait (w : World) : Frame -> Wait
  | fresh _ | crashing _ => .nothing
  | pool p k => poolWait w p (k.await (configOf w p))
  | closing p c => .backend p (.close c)
  | maintaining p round (.resting due) => .tick p round due
  | maintaining p _ (.checking _ k) => poolWait w p (k.await (configOf w p))
  | returning _ _ ms | scripted _ ms _ => .pause (.ofMillis ms.toUInt64)
  | bringUp k =>
      match k.await with
      | .lock t => .managerLock t
      | _ => .nothing
  | closeAll k =>
      match k.await with
      | .lock t => .managerLock t
      | _ => .nothing
  | checkAll _ | check _ _ => .nothing
  | closeEach ts | checkEach ts => .tasks ts
  | cycle _ k ts => .someTask (openTasks k ts)
  | recovery _ _ _ t | stopping t => .tasks [t]
  | monitoring s r t =>
      match stageOf w s r with
      | some (.pausing d) => .loopPause s r d
      | _ => .tasks [t]

/-- How long a part of a task waits at most. -/
def Frame.limit? (w : World) : Frame -> Option Duration
  | pool p k => let c := configOf w p; (k.await c).limit? c
  | closing p c => (Await.close c).limit? (configOf w p)
  | maintaining p _ (.checking _ k) => let c := configOf w p; (k.await c).limit? c
  | _ => none

/-- Whether a part of a task waits for the end of another task. -/
def Frame.joins (w : World) (id : TaskId) (f : Frame) : Bool :=
  match f.wait w with
  | .tasks ts | .someTask ts => ts.contains id
  | _ => false

/-!
## Pools
-/

def poolMove (p : PoolRef) : Progress PoolCall PoolAnswer -> Move
  | .waiting k => .wait (.pool p k)
  | .done a => .done (.pool p a)

/-- A call of a pool that has no backend. -/
def faultyCall (p : PoolRef) (site : PoolSite) : PoolRequest -> Move
  | .warmUp => .done (.pool p (.switched (.ok ())))
  | .shutDown =>
      if site.breaksOnClose then .broken
      else
        .done
          (.pool p (.switched (.error (.backend site.pool.name (.close "socket already gone")))))
  | .checkup => .broken
  | .acquire | .tryAcquire => .done (.pool p (.lent (.error site.pool.notInitialized)))

def beginPool (p : PoolRef) (r : PoolRequest) : Act Move := do
  match (← get).pools[p]? with
  | none => return .broken
  | some site =>
      if site.backend.isNone then return faultyCall p site r
      let now ← instant
      onPool p .broken fun pool =>
        let (pool, k) := PoolCall.start pool now r
        (pool, poolMove p k)

/-- A pool that nobody has any more: its maintenance ends. -/
def dropPool (p : PoolRef) : Act Unit := handleEvent p .maintenanceStopping

/-!
## The manager
-/

def build (d : PoolDefinition) : Act (Option (Except PoolError PoolRef)) := do
  let w ← get
  let plan := (w.blueprints.find? fun b => b.name == d.name).getD { name := d.name }
  if w.withoutBackends then
    return some (.error (.invalidConfig (.invalid
      ("pool '" ++ d.name ++ "': " ++ d.backend.kind.name
        ++ " backend support is not compiled in"))))
  match plan.buildError with
  | some message => return some (.error (.backend d.name (.connect message)))
  | none =>
      let pool := ConnectionPool.ofConfig d.config
      if plan.faulty then
        let site : PoolSite :=
          { pool := pool.setPhase .ready, backend := none, breaksOnClose := plan.breaksOnClose }
        set { w with pools := w.pools.push site }
        return some (.ok w.pools.size)
      if !ConnectionPool.fits d.config then return none
      set { w with pools := w.pools.push { pool := pool, backend := some d.name } }
      return some (.ok w.pools.size)

/-- Where the bringing up of the pools goes from here. -/
def bringUpMove : Progress BringUp (Except ManagerError Unit) -> Move
  | .done r => .done (.broughtUp r)
  | .waiting k =>
      match k.await with
      | .warmUp p => .call (.bringUp k) (.pool p .warmUp)
      | .shutDown p => .call (.bringUp k) (.pool p .shutDown)
      | _ => .wait (.bringUp k)

def stepBringUp (k : BringUp) (r : ManagerReply) : Act Move := do
  let k ← onManager fun m => k.step m r
  return bringUpMove k

def resumeBringUp (k : BringUp) : Signal -> Act Move
  | .reply _ => do
      match k.await with
      | .build d =>
          match ← build d with
          | some r => stepBringUp k (.built r)
          | none => return .broken
      | _ => stepBringUp k .stirred
  | .outcome (.pool _ (.switched r)) =>
      match k.await with
      | .warmUp _ => stepBringUp k (.warmedUp r)
      | _ => stepBringUp k (.closed r)
  | .outcome _ => return .broken

def closeAllMove : Progress CloseAll Unit -> Move
  | .done () => .done .nothing
  | .waiting k =>
      match k.await with
      | .shutDownAll ps => .call (.closeAll k) (.closeEach ps)
      | _ => .wait (.closeAll k)

/-- The verdict that a task on a pool has come to. -/
def verdictOf : Option TaskEnd -> Option Bool
  | some (.finished [.pool _ (.checked healthy)]) => some healthy
  | _ => none

/-!
## Checks
-/

def checkMove (c : HealthCheck) : Progress CheckRun CheckOutcome -> Act Move
  | .done r => return .done (.checked r)
  | .waiting (.probing p) => return .call (.check c (.probing p)) (.pool p .checkup)
  | .waiting (.probingAll k) =>
      return .call (.check c (.probingAll k)) (.checkEach (k.pools.map (·.2)))
  | .waiting (.asking id) => do
      let w ← get
      match w.scripts[id]? with
      | none => return .broken
      | some script =>
          set { w with scripts := w.scripts.set! id { script with runs := script.runs + 1 } }
          match script.entries[script.runs]?.or script.entries.getLast? with
          | some (delay, act) => return .wait (.scripted c delay act)
          | none => return .broken

def scriptedMove (c : HealthCheck) : ScriptAct -> Move
  | .breakDown => .broken
  | .fail message => .done (.checked (.error (.failed c.name message)))
  | .unknown component => .done (.checked (.error (.unknownComponent component)))
  | .report h => .done (.checked (.ok h))

def outcomeOf (c : HealthCheck) (limit : Duration) : Option TaskEnd -> CheckOutcome
  | some (.finished [.checked r]) => r
  | some (.finished _) => .error (.timeout c.name limit)
  | _ => .error (.panicked c.name)

/-- A task that runs a check for as long as the service allows. -/
def spawnCheck (s : ServiceRef) (config : HealthConfig) (c : HealthCheck) : Act TaskId :=
  spawnThreads .asker [{ Thread.ofJob (.check s c) with patience := some config.checkTimeout }]

/-- An identifier of a cycle, thirty-six characters long. -/
def correlationId (n : Nat) : String :=
  let digits := String.ofList (Nat.toDigits 10 n)
  "00000000-0000-4000-8000-" ++ String.ofList (List.replicate (12 - digits.length) '0') ++ digits

def concludeCycle (s : ServiceRef) (site : ServiceSite) (k : Cycle) : Act Move := do
  let now ← instant
  let wall ← readWall
  let r := k.result site.service.config now wall (correlationId (← get).wallReadings)
  if site.measured && (← get).sinkBreaks then return .broken
  measure s (k.measurement now)
  modifyService s fun site => { site with service := site.service.publish r }
  discard (spawnDetached (.tidying s))
  return .done (.cycle r)

/-- Settles the checks of a cycle whose tasks have ended. -/
def settleChecks (s : ServiceRef) (site : ServiceSite) (now : Instant) :
    Cycle -> List (TaskId × Nat) -> Act Cycle
  | k, [] => return k
  | k, (t, i) :: rest => do
      match k.checks[i]? with
      | some (c, none) =>
          if (← get).isAlive t then settleChecks s site now k rest
          else
            let outcome := outcomeOf c site.service.config.checkTimeout (← takeEnd t)
            let (k, r) := k.settle i now outcome
            for r in r do measure s r
            settleChecks s site now k rest
      | _ => settleChecks s site now k rest

/-- A cycle waits for its checks, or it is over. -/
def cycleMove (s : ServiceRef) (site : ServiceSite) (k : Cycle) (tasks : List TaskId) : Act Move :=
  if k.isComplete then concludeCycle s site k else return .wait (.cycle s k tasks)

/-- Tells the loop of a service to stop; a loop that pauses notices at once. -/
def stopLoop (s : ServiceRef) : Act (Option TaskId) := do
  match (← get).services[s]? with
  | none => return none
  | some site =>
      let (monitor, r) := site.monitor.stop
      modifyService s fun site => { site with monitor := monitor }
      wakeWhere fun
        | .monitoring t q _ => t == s && r == some q && monitor.isPausing q
        | _ => false
      return r.bind fun r => site.loopTasks.lookup r

/-!
## Beginning and going on
-/

def begin (j : Job) : Act Move := do
  let now ← instant
  let w ← get
  match j with
  | .pool p r => beginPool p r
  | .closing p c => return .wait (.closing p c)
  | .maintaining p round =>
      return .wait (.maintaining p round (.start (configOf w p).healthCheckInterval now))
  | .returning p l ms => return .wait (.returning p l ms)
  | .crashing p => return .call (.crashing p) (.pool p .acquire)
  | .bringUp => return bringUpMove (← onManager BringUp.start)
  | .closeAll => return closeAllMove (← onManager CloseAll.start)
  | .checkAll =>
      let k := CheckAll.start w.manager
      return .call (.checkAll k) (.checkEach (k.pools.map (·.2)))
  | .closeEach ps =>
      return .wait (.closeEach (← ps.mapM fun p => spawnDetached (.pool p .shutDown)))
  | .checkEach ps => return .wait (.checkEach (← ps.mapM fun p => spawn (.pool p .checkup)))
  | .check s c =>
      match w.services[s]? with
      | some site => checkMove c (CheckRun.start c site.service.config w.host w.manager)
      | none => return .broken
  | .cycle s =>
      match w.services[s]? with
      | some site =>
          let tasks ← site.service.checks.mapM (spawnCheck s site.service.config)
          cycleMove s site (.start site.service now) tasks
      | none => return .broken
  | .recovery s name =>
      match w.services[s]? with
      | some site =>
          match site.service.check? name with
          | some c => return .wait (.recovery s c now (← spawnCheck s site.service.config c))
          | none => return .done (.recovered (.error (.unknownComponent name)))
      | none => return .broken
  | .monitoring s r => return .wait (.monitoring s r (← spawn (.cycle s)))
  | .tidying s =>
      let wall ← readWall
      match w.services[s]?.bind fun site => site.service.cleanup? wall with
      | some service =>
          modifyService s fun site => { site with service := service }
          return .done .nothing
      | none => return .broken
  | .stopMonitoring s =>
      match ← stopLoop s with
      | some t => return .wait (.stopping t)
      | none => return .done .nothing

def resumeMonitoring (s : ServiceRef) (r : LoopRef) (task : TaskId) : Act Move := do
  let w ← get
  match w.services[s]?.bind fun site => site.monitor.loop? r with
  | none => return .done .nothing
  | some l =>
      match l.stage with
      | .cycling =>
          let brokeDown :=
            match ← takeEnd task with
            | some (.finished _) => false
            | _ => true
          modifyService s fun site =>
            { site with monitor := site.monitor.cycleEnded site.service.config r brokeDown }
          return .wait (.monitoring s r task)
      | .pausing _ =>
          if l.stopping then
            modifyService s fun site =>
              { site with
                monitor := site.monitor.remove r, loopTasks := Keyed.erase r site.loopTasks }
            return .done .nothing
          modifyService s fun site => { site with monitor := site.monitor.pauseEnded r }
          return .wait (.monitoring s r (← spawn (.cycle s)))

def resume (f : Frame) (signal : Signal) : Act Move := do
  let now ← instant
  let w ← get
  match f, signal with
  | .fresh j, _ => begin j
  | .pool p k, .reply r =>
      onPool p .broken fun pool =>
        let (pool, k) := k.step pool now r
        (pool, poolMove p k)
  | .closing _ _, _ => return .done .nothing
  | .maintaining p round (.resting due), .reply r =>
      if w.isPast p round then return .done .nothing
      onPool p .broken fun pool =>
        let (pool, k) := Maintenance.step pool now (.resting due) r
        (pool, .wait (.maintaining p round k))
  | .maintaining p round k, .reply r =>
      onPool p .broken fun pool =>
        let (pool, k) := k.step pool now r
        (pool, .wait (.maintaining p round k))
  | .returning p l _, _ =>
      giveBack p l true
      return .done .nothing
  | .crashing p, .outcome (.pool _ (.lent (.ok l))) =>
      giveBack p l true
      return .broken
  | .crashing _, .outcome o => return .done o
  | .bringUp k, signal => resumeBringUp k signal
  | .closeAll k, .reply _ => return closeAllMove (← onManager fun m => k.step m .stirred)
  | .closeAll k, .outcome _ => return closeAllMove (← onManager fun m => k.step m .allClosed)
  | .checkAll k, .outcome (.allChecked vs) => return .done (.verdicts (k.verdicts vs))
  | .closeEach _, _ => return .done .allClosed
  | .checkEach ts, _ =>
      return .done (.allChecked (← ts.mapM fun t => return verdictOf (← takeEnd t)))
  | .check c r, .outcome (.pool _ (.checked healthy)) =>
      checkMove c (r.step c w.manager (poolView w) (.poolChecked healthy))
  | .check c r, .outcome (.allChecked vs) =>
      checkMove c (r.step c w.manager (poolView w) (.allChecked vs))
  | .scripted c _ act, _ => return scriptedMove c act
  | .cycle s k tasks, _ =>
      match w.services[s]? with
      | some site => cycleMove s site (← settleChecks s site now k tasks.zipIdx) tasks
      | none => return .broken
  | .recovery s c since t, _ =>
      match w.services[s]? with
      | some site =>
          let elapsed := now.since since
          let h :=
            HealthService.settle c elapsed
              (outcomeOf c site.service.config.checkTimeout (← takeEnd t))
          measure s (Cycle.checkMeasurement c elapsed)
          modifyService s fun site => { site with service := site.service.note h }
          return .done (.recovered (.ok h))
      | none => return .broken
  | .monitoring s r t, _ => resumeMonitoring s r t
  | .stopping _, _ => return .done .nothing
  | _, _ => return .broken

/-- A part of a task is dropped where it stands. -/
def cancel (f : Frame) : Act Unit := do
  let now ← instant
  match f with
  | .pool p k => changePool p fun pool => k.cancel pool now
  | .maintaining p _ k => changePool p fun pool => k.cancel pool now
  | .returning p l _ => giveBack p l true
  | .bringUp k =>
      onManager fun m => (k.cancel m, ())
      for p in k.owned do dropPool p
  | .closeAll k => onManager fun m => (k.cancel m, ())
  | _ => return

end Scenario
end PoolHealth
