import PoolHealth.Health.Cycle
import PoolHealth.Health.Monitor
import PoolHealth.Pool.Call
import PoolHealth.Pool.Maintenance
import PoolHealth.Scenario.ScriptedBackend

/-!
# The world of a scenario

Tasks that run one at a time in the order in which they became ready, a clock that
moves only when every task waits, and the pools, the manager and the services that the
tasks work on.  The clock counts milliseconds.
-/

namespace PoolHealth
namespace Scenario

abbrev TaskId := Nat

abbrev ServiceRef := Nat

/-- A time at which something is due, and its rank among what is due at that time. -/
structure Alarm where
  due : Nat
  rank : Nat
deriving DecidableEq

inductive ScriptAct where
  | breakDown
  | fail (message : String)
  | unknown (component : String)
  | report (h : ComponentHealth)

inductive Job where
  | pool (p : PoolRef) (r : PoolRequest)
  /-- Closes a connection in the background. -/
  | closing (p : PoolRef) (c : Connection)
  /-- Maintains a pool until its rounds are past this one. -/
  | maintaining (p : PoolRef) (round : Nat)
  /-- Gives a connection back after some milliseconds. -/
  | returning (p : PoolRef) (l : Lease) (ms : Nat)
  /-- Borrows a connection and breaks down. -/
  | crashing (p : PoolRef)
  | bringUp
  | closeAll
  | checkAll
  /-- Shuts pools down side by side. -/
  | closeEach (ps : List PoolRef)
  | checkEach (ps : List PoolRef)
  | check (s : ServiceRef) (c : HealthCheck)
  | cycle (s : ServiceRef)
  | recovery (s : ServiceRef) (name : String)
  | monitoring (s : ServiceRef) (r : LoopRef)
  /-- Cleans the history of a service up. -/
  | tidying (s : ServiceRef)
  | stopMonitoring (s : ServiceRef)

inductive Frame where
  | fresh (j : Job)
  | pool (p : PoolRef) (k : PoolCall)
  | closing (p : PoolRef) (c : Connection)
  | maintaining (p : PoolRef) (round : Nat) (k : Maintenance)
  | returning (p : PoolRef) (l : Lease) (ms : Nat)
  | crashing (p : PoolRef)
  | bringUp (k : BringUp)
  | closeAll (k : CloseAll)
  | checkAll (k : CheckAll)
  | closeEach (tasks : List TaskId)
  | checkEach (tasks : List TaskId)
  | check (c : HealthCheck) (r : CheckRun)
  /-- A check that follows a script. -/
  | scripted (c : HealthCheck) (delay : Nat) (act : ScriptAct)
  | cycle (s : ServiceRef) (k : Cycle) (tasks : List TaskId)
  | recovery (s : ServiceRef) (c : HealthCheck) (since : Instant) (task : TaskId)
  | monitoring (s : ServiceRef) (r : LoopRef) (task : TaskId)
  | stopping (task : TaskId)

inductive Outcome where
  | nothing
  | pool (p : PoolRef) (a : PoolAnswer)
  | broughtUp (r : Except ManagerError Unit)
  | allClosed
  | allChecked (vs : List (Option Bool))
  | verdicts (vs : List (String × Bool))
  | checked (r : CheckOutcome)
  | cycle (r : CycleResult)
  | recovered (r : Except CheckError ComponentHealth)
  /-- The time set from outside was up first. -/
  | outOfTime

/-- A sequence of parts of which each waits for the one in front of it. -/
structure Thread where
  frames : List Frame
  /-- The wait of the innermost part has been set up. -/
  armed : Bool := false
  /-- When the operation that is waited for is over. -/
  work : Option Alarm := none
  /-- When the wait is given up. -/
  limit : Option Alarm := none
  /-- The time set from outside, counted from the first wait. -/
  patience : Option Duration := none
  deadline : Option Alarm := none
  /-- What the part that was in front has come to. -/
  handed : Option Outcome := none

inductive ThreadState where
  | running (t : Thread)
  /-- The thread is being run at the moment. -/
  | busy
  | ended (o : Outcome)

inductive Audience where
  | nobody
  | asker
  /-- The one who directs the scenario: a loan is held under the label, and the end is
  reported under it. -/
  | director (label : String)
deriving DecidableEq

/-- A task and its threads, which are run in turn. -/
structure Task where
  threads : List ThreadState
  audience : Audience
  aborted : Bool := false

/-- How a task ends; one that was aborted has no result. -/
inductive TaskEnd where
  | finished (outcomes : List Outcome)
  | brokeDown
  | aborted

/-- A borrowed connection and the pool that it belongs to. -/
structure Holding where
  pool : PoolRef
  lease : Lease

structure PoolSite where
  pool : ConnectionPool
  /-- The backend of the pool; without one, every check of the pool breaks down and it
  cannot be closed. -/
  backend : Option String
  /-- Closing a pool without a backend breaks down. -/
  breaksOnClose : Bool := false
  /-- Measurements of the pool are kept. -/
  measured : Bool := false
  /-- How often maintenance has been told to end; one of an earlier round does so as soon
  as it rests. -/
  round : Nat := 0
  maintenance : Option TaskId := none
  /-- The maintenance that was the last to be told. -/
  retired : Option TaskId := none

structure ServiceSite where
  service : HealthService
  monitor : Monitor := {}
  loopTasks : List (LoopRef × TaskId) := []
  /-- Measurements of the service are kept. -/
  measured : Bool := false

structure Blueprint where
  name : String
  /-- Checks of the pool break down, and it cannot be closed. -/
  faulty : Bool := false
  breaksOnClose : Bool := false
  buildError : Option String := none

/-- A check that follows a script: delays in milliseconds and what comes after them.
The last entry is repeated for ever. -/
structure CheckScript where
  name : String
  entries : List (Nat × ScriptAct)
  runs : Nat := 0

structure World where
  now : Nat := 0
  nextRank : Nat := 0
  nextTask : TaskId := 0
  /-- Tasks that can run, the next one in front. -/
  ready : List TaskId := []
  tasks : List (TaskId × Task) := []
  /-- Ends of tasks that somebody will ask for. -/
  ended : List (TaskId × TaskEnd) := []
  /-- Ends of background tasks by label; of tasks with the same label the last one
  counts. -/
  reports : List (String × TaskId × TaskEnd) := []
  /-- Borrowed connections in the order of their labels. -/
  held : List (String × Holding) := []
  /-- The task that runs at the moment, and whether it was woken meanwhile. -/
  current : Option TaskId := none
  wokenMeanwhile : Bool := false
  pools : Array PoolSite := #[]
  backends : List (String × ScriptedBackend) := []
  manager : PoolManager := { config := {} }
  blueprints : List Blueprint := []
  withoutBackends : Bool := false
  services : Array ServiceSite := #[]
  scripts : Array CheckScript := #[]
  records : Array MetricRecord := #[]
  /-- The measurement of a cycle breaks down. -/
  sinkBreaks : Bool := false
  /-- How often the time of day was read. -/
  wallReadings : Nat := 0
  host : Host.Readings :=
    { tempDir := "/tmp", disk := some (50.0, 100.0), target := .directory, memoryPercent := 50.0
      memoryAvailableGiB := 8.0, memoryTotalGiB := 16.0, cpuPercent := 10.0, cores := 4 }

abbrev Act := StateM World

def instant : Act Instant := return .ofMillis (← get).now

/-- The first second of the scenario by the time of day. -/
def wallStart : Int := 1767225600

/-- The time of day, which is never the same twice. -/
def readWall : Act Timestamp := do
  let w ← get
  set { w with wallReadings := w.wallReadings + 1 }
  return ⟨wallStart + (w.wallReadings / 1000000 : Nat), w.wallReadings % 1000000 * 1000⟩

/-!
## Tasks
-/

/-- A task becomes ready, unless it is already. -/
def wake (id : TaskId) : Act Unit := modify fun w =>
  if w.current = some id then { w with wokenMeanwhile := true }
  else if w.ready.contains id || (w.tasks.lookup id).isNone then w
  else { w with ready := w.ready ++ [id] }

/-- A new task; it runs when its turn comes. -/
def spawnThreads (audience : Audience) (threads : List Thread) : Act TaskId := do
  let w ← get
  let task : Task := { threads := threads.map .running, audience := audience }
  set { w with
    nextTask := w.nextTask + 1
    tasks := w.tasks ++ [(w.nextTask, task)]
    ready := w.ready ++ [w.nextTask] }
  return w.nextTask

def Thread.ofJob (j : Job) : Thread := { frames := [.fresh j] }

/-- A new task with a single job whose end somebody wants to know. -/
def spawn (j : Job) : Act TaskId := spawnThreads .asker [.ofJob j]

/-- A new task with a single job that is left to itself. -/
def spawnDetached (j : Job) : Act TaskId := spawnThreads .nobody [.ofJob j]

/-- Whether a task has not ended. -/
def World.isAlive (w : World) (id : TaskId) : Bool := (w.tasks.lookup id).isSome

/-- How a task has ended; its end is forgotten after that. -/
def takeEnd (id : TaskId) : Act (Option TaskEnd) := do
  let w ← get
  set { w with ended := Keyed.erase id w.ended }
  return w.ended.lookup id

def alarmAt (due : Nat) : Act Alarm := do
  let w ← get
  set { w with nextRank := w.nextRank + 1 }
  return ⟨due, w.nextRank⟩

/-- When a wait that begins now and takes `d` is over; none takes longer than the longest
wait. -/
def dueAfter (now : Nat) (d : Duration) : Nat := now + min d.millisCeil Duration.longestWait.millis

/-- The first millisecond that is not before an instant. -/
def tickOf (i : Instant) : Nat := (i.nanos + (Duration.nanosPerMilli - 1)) / Duration.nanosPerMilli

/-- Whether the time of an alarm has come; without an alarm it always has. -/
def isDue (now : Nat) : Option Alarm -> Bool
  | none => true
  | some a => a.due ≤ now

/-- Whether there is an alarm and its time has come. -/
def hasRung (now : Nat) : Option Alarm -> Bool
  | none => false
  | some a => a.due ≤ now

def Thread.alarms (t : Thread) : List Alarm := t.work.toList ++ t.limit.toList ++ t.deadline.toList

/-- The threads of a task that have not ended and are not being run. -/
def Task.waiting (t : Task) : List Thread :=
  t.threads.filterMap fun
    | .running t => some t
    | _ => none

def World.alarms (w : World) : List (Alarm × TaskId) :=
  w.tasks.flatMap fun (id, t) => (t.waiting.flatMap Thread.alarms).map fun a => (a, id)

def World.nextDue? (w : World) : Option Nat :=
  ((w.alarms.map fun a => a.1.due).filter fun d => decide (w.now < d)).min?

/-- The clock moves on, and everything due by then is woken in order. -/
def moveClock (now : Nat) : Act Unit := do
  modify fun w => { w with now := now }
  let w ← get
  let due := w.alarms.filter fun a => decide (a.1.due ≤ now)
  for (_, id) in due.mergeSort fun a b => decide (a.1.rank ≤ b.1.rank) do
    wake id

/-- Wakes the tasks that have a part for which the condition holds in front. -/
def wakeWhere (cond : Frame -> Bool) : Act Unit := do
  for (id, t) in (← get).tasks do
    if t.waiting.any fun t => (t.frames.head?.map cond).getD false then wake id

/-!
## Pools and backends
-/

/-- Whether the maintenance of a round has been told to end. -/
def World.isPast (w : World) (p : PoolRef) (round : Nat) : Bool :=
  match w.pools[p]? with
  | some site => decide (round < site.round)
  | none => true

def modifySite (p : PoolRef) (f : PoolSite -> PoolSite) : Act Unit := modify fun w =>
  { w with pools := w.pools.modify p f }

def handleEvent (p : PoolRef) : PoolEvent -> Act Unit
  | .slotStirred t => wakeWhere fun
    | .pool q (.acquire (.queued s _)) => q == p && s == t
    | _ => false
  | .lockPassed t => wakeWhere fun
    | .pool q (.warmUp (.queued s)) | .pool q (.shutDown (.queued s)) => q == p && s == t
    | _ => false
  | .closeLater c => discard (spawnDetached (.closing p c))
  | .maintenanceStarted => do
      let round := ((← get).pools[p]?.map (·.round)).getD 0
      let id ← spawnDetached (.maintaining p round)
      modifySite p fun s => { s with maintenance := some id }
  | .maintenanceStopping => do
      modifySite p fun s =>
        { s with round := s.round + 1, maintenance := none, retired := s.maintenance }
      wakeWhere fun
        | .maintaining q _ (.resting _) => q == p
        | _ => false
  | .measured r => modify fun w =>
      if (w.pools[p]?.map (·.measured)).getD false then { w with records := w.records.push r }
      else w

/-- Changes a pool and lets the surroundings take note of it. -/
def onPool {α : Type} (p : PoolRef) (none : α) (f : ConnectionPool -> ConnectionPool × α) :
    Act α := do
  match (← get).pools[p]? with
  | .none => return none
  | .some site =>
      let (pool, a) := f site.pool
      modifySite p fun s => { s with pool := { pool with outbox := [] } }
      for e in pool.outbox do handleEvent p e
      return a

/-- Changes a pool and lets the surroundings take note of it. -/
def changePool (p : PoolRef) (f : ConnectionPool -> ConnectionPool) : Act Unit :=
  onPool p () fun pool => (f pool, ())

/-- The time on a clock outside of the scenario, which has hardly begun to run. -/
def outsideInstant : Instant := ⟨1⟩

/-- A borrower gives a connection back.  Whoever cannot do anything in the background is
outside of the scenario and has another clock. -/
def giveBack (p : PoolRef) (l : Lease) (background : Bool) : Act Unit := do
  let now ← if background then instant else pure outsideInstant
  changePool p fun pool => pool.giveBack now l background

/-- Holds a borrowed connection under a label; one that was held under it before goes
back. -/
def hold (label : String) (h : Holding) : Act Unit := do
  let old := (← get).held.lookup label
  modify fun w => { w with held := Keyed.insert label h w.held }
  match old with
  | some h => giveBack h.pool h.lease true
  | none => return

def backendOf (p : PoolRef) : Act (Option (String × ScriptedBackend)) := do
  let w ← get
  return do
    let name ← (← w.pools[p]?).backend
    return (name, ← w.backends.lookup name)

def setBackend (name : String) (b : ScriptedBackend) : Act Unit := modify fun w =>
  { w with backends := Keyed.set name b w.backends }

/-- The waiting for a slot or a lock of the manager ends for those who were given it. -/
def flushManager : Act Unit := do
  let m := (← get).manager
  modify fun w => { w with manager := { m with outbox := [] } }
  for t in m.outbox do
    wakeWhere fun
      | .bringUp (.queued s) => s == t
      | .closeAll (.queued s) => s == t
      | _ => false

/-- Changes the manager and lets the surroundings take note of it. -/
def onManager {α : Type} (f : PoolManager -> PoolManager × α) : Act α := do
  let (m, a) := f (← get).manager
  modify fun w => { w with manager := m }
  flushManager
  return a

def poolView (w : World) : PoolView := fun p =>
  match w.pools[p]? with
  | some site =>
      (((site.backend.bind fun b => w.backends.lookup b).map (·.kind)).getD .other, site.pool.stats)
  | none => (.other, .fresh "")

/-!
## Services
-/

def modifyService (s : ServiceRef) (f : ServiceSite -> ServiceSite) : Act Unit := modify fun w =>
  { w with services := w.services.modify s f }

/-- Keeps a measurement of a service, if anybody wants it. -/
def measure (s : ServiceRef) (r : MetricRecord) : Act Unit := modify fun w =>
  if (w.services[s]?.map (·.measured)).getD false then { w with records := w.records.push r } else w

end Scenario
end PoolHealth
