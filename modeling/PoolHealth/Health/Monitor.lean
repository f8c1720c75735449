import PoolHealth.Config.Health

/-!
# Monitoring

A monitoring loop runs a cycle, pauses, and runs the next one until it is told to stop;
it is told between two cycles only.  After a cycle that broke down it pauses for a
different time.  The monitor of a service knows which loop is its own.
-/

namespace PoolHealth

abbrev LoopRef := Nat

inductive LoopStage where
  | cycling
  | pausing (d : Duration)
deriving DecidableEq

structure MonitorLoop where
  stage : LoopStage := .cycling
  /-- The loop has been told to stop. -/
  stopping : Bool := false
deriving DecidableEq

/-- The loops of a service that have not ended, and the one that counts. -/
structure Monitor where
  current : Option LoopRef := none
  loops : List (LoopRef × MonitorLoop) := []
  nextRef : LoopRef := 0
deriving DecidableEq

namespace Monitor

/-- The loop with a reference, if it has not ended. -/
def loop? (m : Monitor) (r : LoopRef) : Option MonitorLoop := m.loops.lookup r

/-- Whether the loop of the monitor has not ended. -/
def isMonitoring (m : Monitor) : Bool :=
  match m.current with
  | some r => (m.loop? r).isSome
  | none => false

/-- Whether a loop has not ended and pauses. -/
def isPausing (m : Monitor) (r : LoopRef) : Bool :=
  match m.loop? r with
  | some ⟨.pausing _, _⟩ => true
  | _ => false

/-- Starts a loop unless one is running already; tells which one was started. -/
def start (m : Monitor) : Monitor × Option LoopRef :=
  if m.isMonitoring then (m, none)
  else
    ({ current := some m.nextRef, loops := (m.nextRef, {}) :: m.loops, nextRef := m.nextRef + 1 },
      some m.nextRef)

def modify (m : Monitor) (r : LoopRef) (f : MonitorLoop -> MonitorLoop) : Monitor :=
  { m with loops := m.loops.map fun (s, l) => if s = r then (s, f l) else (s, l) }

def remove (m : Monitor) (r : LoopRef) : Monitor :=
  { m with loops := m.loops.filter fun l => l.1 != r }

def signal (m : Monitor) (r : LoopRef) : Monitor := m.modify r fun l => { l with stopping := true }

/-- Lets go of the loop of the monitor and tells it to stop; the caller waits for the
loop to end. -/
def stop (m : Monitor) : Monitor × Option LoopRef :=
  match m.current with
  | some r => (({ m with current := none } : Monitor).signal r, some r)
  | none => (m, none)

/-- A cycle of a loop has ended, and the loop pauses. -/
def cycleEnded (m : Monitor) (c : HealthConfig) (r : LoopRef) (brokeDown : Bool) : Monitor :=
  m.modify r fun l =>
    { l with stage := .pausing (if brokeDown then c.errorPause else c.checkInterval) }

def pauseEnded (m : Monitor) (r : LoopRef) : Monitor :=
  m.modify r fun l => { l with stage := .cycling }

end Monitor
end PoolHealth
