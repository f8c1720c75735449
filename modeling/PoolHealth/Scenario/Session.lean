import PoolHealth.Scenario.Executor

/-!
# Sessions

A session is a world together with what the one who directs the scenario remembers:
the background tasks under their labels, and how much has been shown.
-/

namespace PoolHealth
namespace Scenario

/-!
## Connections on loan
-/

def takeHeld (label : String) : Act (Option Holding) := do
  let w ← get
  set { w with held := Keyed.erase label w.held }
  return w.held.lookup label

def release (label : String) (background : Bool) : Act Bool := do
  match ← takeHeld label with
  | some h =>
      giveBack h.pool h.lease background
      return true
  | none => return false

/-- Gives everything back in the order of the labels. -/
def releaseAll : Act Nat := do
  let held := (← get).held
  for (label, _) in held do discard (release label true)
  return held.length

def modifyLease (label : String) (f : Lease -> Lease) : Act Bool := do
  match (← get).held.lookup label with
  | some h =>
      modify fun w => { w with held := Keyed.insert label { h with lease := f h.lease } w.held }
      return true
  | none => return false

/-- Has the borrower ask for the connection to be closed. -/
def markBroken (label : String) : Act Bool := modifyLease label fun l => { l with broken := true }

/-!
## The session
-/

structure Session where
  world : World
  /-- The task that was last put into the background under each label, unless it has
  been aborted. -/
  background : List (String × TaskId) := []
  /-- The number of measurements that have been shown. -/
  shown : Nat := 0

abbrev Run := StateM Session

def inWorld {α : Type} (a : Act α) : Run α := do
  let s ← get
  let (r, w) := a.run s.world
  set { s with world := w }
  return r

/-- Puts a task into the background under a label.  A task that was there before goes on,
but its label is no longer its own. -/
def spawnLabelled (label : String) (threads : List Thread) : Run TaskId := do
  let id ← inWorld (spawnThreads (.director label) threads)
  modify fun s => { s with background := Keyed.set label id s.background }
  return id

/-- Aborts the background task under a label, which is free after that; tells whether
there was one. -/
def abortLabelled (label : String) : Run Bool := do
  match (← get).background.lookup label with
  | some id =>
      modify fun s => { s with background := Keyed.erase label s.background }
      inWorld (abort id)
      return true
  | none => return false

/-- The ends of background tasks since the last time. -/
def newReports : Act (List (String × TaskId × TaskEnd)) := do
  let w ← get
  set { w with reports := [] }
  return w.reports

/-- The measurements since the last time. -/
def newRecords : Run (List MetricRecord) := do
  let s ← get
  set { s with shown := s.world.records.size }
  return s.world.records.toList.drop s.shown

def settleWorld : Run Unit := inWorld (settle turnLimit)

def changeBackend (name : String) (f : ScriptedBackend -> ScriptedBackend) : Run Unit :=
  inWorld do
    match (← get).backends.lookup name with
    | some b => setBackend name (f b)
    | none => return

end Scenario
end PoolHealth
