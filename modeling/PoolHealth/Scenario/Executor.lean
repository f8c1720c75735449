import PoolHealth.Scenario.Jobs

/-!
# Running tasks

Ready tasks run one after another, each until all its threads wait.  When no task is
ready the clock moves on to the next moment at which something is due.  Whoever runs
the world says how far: until nothing can run any more at the current time, until a
task has ended, or until a given time.
-/

namespace PoolHealth
namespace Scenario

inductive Look where
  | pending
  | signal (s : Signal)
  | broken

inductive Polled where
  | pending (t : Thread)
  | ended (o : Outcome)
  | broken

/-- An alarm that many milliseconds after now, unless that is at once. -/
def alarmIn (ms : Nat) : Act (Option Alarm) := do
  if ms = 0 then return none
  return some (← alarmAt ((← get).now + ms))

/-- An alarm at a time, unless that has come already. -/
def alarmUnlessDue (due : Nat) : Act (Option Alarm) := do
  if due ≤ (← get).now then return none
  return some (← alarmAt due)

/-- Sets a wait up: an operation begins, and the clocks are started. -/
def arm (t : Thread) (f : Frame) : Act Thread := do
  let w ← get
  let work ←
    match f.wait w with
    | .backend p a => do
        match ← backendOf p with
        | some (name, b) =>
            setBackend name (b.start a)
            alarmIn (b.delay a)
        | none => pure none
    | .pause d | .loopPause _ _ d => alarmUnlessDue (dueAfter w.now d)
    | .tick _ _ due => alarmUnlessDue (tickOf due)
    | _ => pure none
  let limit ←
    match f.limit? w with
    | some d => do pure (some (← alarmAt (dueAfter w.now d)))
    | none => pure none
  return { t with armed := true, work := work, limit := limit }

def hasHappened (w : World) (t : Thread) : Wait -> Bool
  | .nothing => true
  | .slot p k =>
      match w.pools[p]? with
      | some site => site.pool.slots.standing k != .waiting
      | none => false
  | .poolLock p k =>
      match w.pools[p]? with
      | some site => site.pool.lifecycle.standing k != .waiting
      | none => false
  | .managerLock k => w.manager.lifecycle.standing k != .waiting
  | .backend _ _ | .pause _ => isDue w.now t.work
  | .tick p round _ => isDue w.now t.work || w.isPast p round
  | .tasks ts => ts.all fun id => !w.isAlive id
  | .someTask ts => ts.any fun id => !w.isAlive id
  | .loopPause s r _ =>
      isDue w.now t.work
        || ((w.services[s]?.bind fun site => site.monitor.loop? r).map (·.stopping)).getD true

def look (t : Thread) (f : Frame) : Act Look := do
  let w ← get
  let wait := f.wait w
  if hasHappened w t wait then
    match wait with
    | .backend p a =>
        match ← backendOf p with
        | some (name, b) =>
            let (b, r) := b.finish a
            setBackend name b
            match r with
            | some r => return .signal (.reply r)
            | none => return .broken
        | none => return .broken
    | _ => return .signal (.reply .stirred)
  if hasRung w.now t.limit then return .signal (.reply .timedOut)
  return .pending

/-- Drops all parts of a thread, the innermost first. -/
def cancelFrames (fs : List Frame) : Act Unit := do
  for f in fs do cancel f

/-- A thread has to wait: the time set from outside starts to run, or is up. -/
def rest (t : Thread) : Act Polled := do
  let t ←
    match t.patience, t.deadline with
    | some d, none => do pure { t with deadline := some (← alarmAt (dueAfter (← get).now d)) }
    | _, _ => pure t
  if hasRung (← get).now t.deadline then
    cancelFrames t.frames
    return .ended .outOfTime
  return .pending t

/-- Runs a thread until it waits, ends or breaks down, for at most so many moves. -/
def runThread : Nat -> Thread -> Act Polled
  | 0, t => return .pending t
  | fuel + 1, t => do
      match t.frames with
      | [] => return .ended (t.handed.getD .nothing)
      | f :: outer =>
          let t ← if t.armed || t.handed.isSome then pure t else arm t f
          let found ←
            match t.handed with
            | some o => pure (Look.signal (.outcome o))
            | none => look t f
          let onward (fs : List Frame) (handed : Option Outcome) : Thread :=
            { t with frames := fs, armed := false, work := none, limit := none, handed := handed }
          match found with
          | .pending => rest t
          | .broken =>
              cancelFrames t.frames
              return .broken
          | .signal s =>
              match ← resume f s with
              | .wait f => runThread fuel (onward (f :: outer) none)
              | .call f j => runThread fuel (onward (.fresh j :: f :: outer) none)
              | .done o => runThread fuel (onward outer (some o))
              | .broken =>
                  cancelFrames t.frames
                  return .broken

def moveLimit : Nat := 10000000

def setThread (id : TaskId) (i : Nat) (t : ThreadState) : Act Unit := modify fun w =>
  match w.tasks.lookup id with
  | some task =>
      { w with tasks := Keyed.set id { task with threads := task.threads.set i t } w.tasks }
  | none => w

/-- Drops all threads of a task that have not ended. -/
def cancelThreads (task : Task) : Act Unit := do
  for t in task.waiting do cancelFrames t.frames

/-- The world with the end of a task noted for those who want to know it.  An aborted
task has nothing to report. -/
def World.note (w : World) (id : TaskId) (e : TaskEnd) : Audience -> World
  | .nobody => w
  | .asker => { w with ended := w.ended ++ [(id, e)] }
  | .director label =>
      match e with
      | .aborted => w
      | e => { w with reports := Keyed.set label (id, e) w.reports }

/-- A task has ended; those who wait for that are woken. -/
def endTask (id : TaskId) (task : Task) (e : TaskEnd) : Act Unit := do
  match task.audience, e with
  | .director label, .finished [.pool p (.lent (.ok l))] => hold label ⟨p, l⟩
  | _, _ => pure ()
  modify fun w => { w with tasks := Keyed.erase id w.tasks }.note id e task.audience
  let w ← get
  wakeWhere fun f => f.joins w id

/-- Runs the threads of a task from the given place on; tells whether one broke
down. -/
def runThreads (id : TaskId) : List (ThreadState × Nat) -> Act Bool
  | [] => return false
  | (.running t, i) :: others => do
      setThread id i .busy
      match ← runThread moveLimit t with
      | .pending t =>
          setThread id i (.running t)
          runThreads id others
      | .ended o =>
          setThread id i (.ended o)
          runThreads id others
      | .broken => return true
  | _ :: others => runThreads id others

/-- The outcomes of the threads, if all have ended. -/
def outcomes? : List ThreadState -> Option (List Outcome)
  | [] => some []
  | .ended o :: rest => (outcomes? rest).map (o :: ·)
  | _ => none

def runTask (id : TaskId) : Act Unit := do
  match (← get).tasks.lookup id with
  | none => return
  | some task =>
      if task.aborted then
        cancelThreads task
        endTask id task .aborted
        return
      modify fun w => { w with current := some id, wokenMeanwhile := false }
      let broken ← runThreads id task.threads.zipIdx
      let task := ((← get).tasks.lookup id).getD task
      if broken then
        cancelThreads task
        modify fun w => { w with current := none }
        endTask id task .brokeDown
      else
        let again := (← get).wokenMeanwhile
        modify fun w => { w with current := none }
        match outcomes? task.threads with
        | some outcomes => endTask id task (.finished outcomes)
        | none => if again then wake id

/-- Runs the task whose turn it is, if one is ready. -/
def runNext : Act Bool := do
  match (← get).ready with
  | [] => return false
  | id :: rest =>
      modify fun w => { w with ready := rest }
      runTask id
      return true

/-- The number of turns that a step of a scenario may take. -/
def turnLimit : Nat := 100000000

def settle : Nat -> Act Unit
  | 0 => return
  | fuel + 1 => do if ← runNext then settle fuel

/-- Lets time pass until nothing is left to do before `target`. -/
def advanceTo (target : Nat) : Nat -> Act Unit
  | 0 => return
  | fuel + 1 => do
      if ← runNext then advanceTo target fuel
      else
        match (← get).nextDue? with
        | some due =>
            if due ≤ target then
              moveClock due
              advanceTo target fuel
            else moveClock target
        | none => moveClock target

def awaitTask (id : TaskId) : Nat -> Act Unit
  | 0 => return
  | fuel + 1 => do
      if !(← get).isAlive id then return
      if ← runNext then awaitTask id fuel
      else
        match (← get).nextDue? with
        | some due =>
            moveClock due
            awaitTask id fuel
        | none => return

def advance (ms : Nat) : Act Unit := do advanceTo ((← get).now + ms) turnLimit

/-- Runs a task to its end and tells what it came to. -/
def complete (threads : List Thread) : Act (Option TaskEnd) := do
  let id ← spawnThreads .asker threads
  awaitTask id turnLimit
  takeEnd id

/-- Aborts a task: it is dropped when its turn comes. -/
def abort (id : TaskId) : Act Unit := do
  match (← get).tasks.lookup id with
  | none => return
  | some task =>
      modify fun w => { w with tasks := Keyed.set id { task with aborted := true } w.tasks }
      wake id

end Scenario
end PoolHealth
