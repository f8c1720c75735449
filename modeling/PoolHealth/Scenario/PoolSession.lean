import PoolHealth.Scenario.Session

/-!
# Sessions with a pool

The steps of a session with a single pool over a scripted backend, and what is seen
after each of them.
-/

namespace PoolHealth
namespace Scenario

/-- Something that is asked of the pool, in the foreground or in the background. -/
inductive PoolCommand where
  /-- Borrows a connection, and gives up after a time set from outside. -/
  | acquire (patience : Option Duration)
  | tryAcquire
  /-- Borrows a connection and breaks down. -/
  | crash
  | warmUp (copies : Nat)
  | shutDown (copies : Nat)
  | checkup (copies : Nat)

inductive PoolStep where
  | call (c : PoolCommand) (label : String)
  | spawn (c : PoolCommand) (label : String)
  | abort (label : String)
  | release (label : String)
  | releaseAll
  | releaseAfter (label : String) (ms : Nat)
  /-- Gives a connection back where nothing can be done in the background. -/
  | releaseOutside (label : String)
  | markBroken (label : String)
  | retag (label : String) (id : Nat)
  | age (label : String)
  | change (f : ScriptedBackend -> ScriptedBackend)
  | advance (ms : Nat)
  | metrics
  | info

inductive CallResult where
  | brokeDown
  | gaveUp
  | lent (r : Except PoolError Nat)
  | switched (rs : List (Except PoolError Unit))
  | checked (rs : List Bool)

/-- How the pool and the connections on loan show themselves. -/
structure PoolInfo where
  name : String
  maxSize : Nat
  ready : Bool
  pool : String
  held : List String

inductive StepResult where
  | nothing
  | flag (b : Bool)
  | count (n : Nat)
  | id (old : Option Nat)
  | age (a : Option (String × Duration))
  | call (r : CallResult)
  | records (rs : List MetricRecord)
  | info (i : PoolInfo)

structure PoolView where
  result : StepResult
  now : Nat
  phase : PoolPhase
  stats : PoolStats
  backend : ScriptedBackend
  held : List (String × Nat)
  done : List (String × CallResult)

/-- The only pool. -/
def thePool : PoolRef := 0

def PoolCommand.threads : PoolCommand -> List Thread
  | acquire patience => [{ Thread.ofJob (.pool thePool .acquire) with patience := patience }]
  | tryAcquire => [.ofJob (.pool thePool .tryAcquire)]
  | crash => [.ofJob (.crashing thePool)]
  | warmUp n => List.replicate n (.ofJob (.pool thePool .warmUp))
  | shutDown n => List.replicate n (.ofJob (.pool thePool .shutDown))
  | checkup n => List.replicate n (.ofJob (.pool thePool .checkup))

def loan? : Outcome -> Option Holding
  | .pool p (.lent (.ok l)) => some ⟨p, l⟩
  | _ => none

/-- The result of a command whose task has ended; one that was aborted has none. -/
def PoolCommand.result (c : PoolCommand) : TaskEnd -> Option CallResult
  | .aborted => none
  | .brokeDown => some .brokeDown
  | .finished outcomes =>
      match c with
      | acquire _ | tryAcquire | crash =>
          match outcomes with
          | [.pool _ (.lent r)] => some (.lent (r.map fun l => l.connection.id))
          | _ => some .gaveUp
      | warmUp _ | shutDown _ =>
          some (.switched (outcomes.filterMap fun
            | .pool _ (.switched r) => some r
            | _ => none))
      | checkup _ =>
          some (.checked (outcomes.filterMap fun
            | .pool _ (.checked b) => some b
            | _ => none))

/-- Takes note of the end of a call: a loan is held. -/
def collect (c : PoolCommand) (label : String) (e : TaskEnd) : Run (Option CallResult) := do
  match e with
  | .finished [o] =>
      match loan? o with
      | some h => inWorld (hold label h)
      | none => pure ()
  | _ => pure ()
  return c.result e

def currentPool : Run (Option ConnectionPool) := return (← get).world.pools[thePool]?.map (·.pool)

def describeLease (pool : String) (now : Instant) (l : Lease) : String :=
  "PooledConnection \x7b pool: " ++ Text.quote pool ++ ", age: "
    ++ (now.since l.createdAt).compact ++ ", broken: " ++ toString l.broken ++ " \x7d"

def describePool (p : ConnectionPool) (kind : BackendKind) : String :=
  "ConnectionPool \x7b name: " ++ Text.quote p.name ++ ", kind: " ++ kind.title ++ ", phase: "
    ++ p.phase.title ++ " \x7d"

/-- The only backend. -/
def currentBackend : Run ScriptedBackend :=
  return ((← get).world.backends.head?.map (·.2)).getD {}

abbrev PoolRun := StateT (List (TaskId × PoolCommand)) Run

def performStep : PoolStep -> PoolRun StepResult
  | .call c label => do
      match ← inWorld (complete c.threads) with
      | some e =>
          match ← collect c label e with
          | some r => return .call r
          | none => return .nothing
      | none => return .nothing
  | .spawn c label => do
      let id ← spawnLabelled label c.threads
      modify fun cs => (id, c) :: cs
      return .nothing
  | .abort label => return .flag (← abortLabelled label)
  | .release label => return .flag (← inWorld (Scenario.release label true))
  | .releaseAll => return .count (← inWorld Scenario.releaseAll)
  | .releaseAfter label ms => do
      match ← inWorld (takeHeld label) with
      | some h => discard (inWorld (spawnDetached (.returning h.pool h.lease ms)))
      | none => pure ()
      return .nothing
  | .releaseOutside label => return .flag (← inWorld (Scenario.release label false))
  | .markBroken label => return .flag (← inWorld (Scenario.markBroken label))
  | .retag label id => do
      let old := (← getThe Session).world.held.lookup label
      discard (inWorld (modifyLease label fun l => { l with connection := ⟨id⟩ }))
      return .id (old.map fun h => h.lease.connection.id)
  | .age label => do
      let s ← getThe Session
      return .age (do
        let h ← s.world.held.lookup label
        let site ← s.world.pools[h.pool]?
        return (site.pool.name, (Instant.ofMillis s.world.now).since h.lease.createdAt))
  | .change f => do
      match (← getThe Session).world.backends.head? with
      | some (name, _) => changeBackend name f
      | none => pure ()
      return .nothing
  | .advance ms => do
      inWorld (Scenario.advance ms)
      return .nothing
  | .metrics => return .records (← newRecords)
  | .info => do
      let s ← getThe Session
      match ← currentPool with
      | none => return .nothing
      | some p =>
          let b ← currentBackend
          let now := Instant.ofMillis s.world.now
          return .info
            { name := p.name
              maxSize := p.config.maxSize.toNat
              ready := p.isReady
              pool := describePool p b.kind
              held := s.world.held.map fun h => describeLease p.name now h.2.lease }

/-- Collects the results of the background tasks that have ended. -/
def collectBackground : PoolRun (List (String × CallResult)) := do
  let commands ← get
  return (← inWorld newReports).filterMap fun (label, id, e) => do
    return (label, ← (← commands.lookup id).result e)

/-- Performs a step and shows what is seen after it. -/
def showStep (step : PoolStep) : PoolRun (Option PoolView) := do
  let result ← performStep step
  settleWorld
  let done ← collectBackground
  let s ← getThe Session
  let backend ← currentBackend
  return (← currentPool).map fun p =>
    { result := result
      now := s.world.now
      phase := p.phase
      stats := p.stats
      backend := backend
      held := s.world.held.map fun h => (h.1, h.2.lease.connection.id)
      done := done }

/-- A session with a pool; with `measured` its measurements are kept. -/
def poolSession (c : PoolConfig) (b : ScriptedBackend) (measured : Bool) : Session where
  world :=
    { pools := #[{ pool := .ofConfig c, backend := some c.name, measured := measured }]
      backends := [(c.name, b)] }

def runPoolSteps (c : PoolConfig) (b : ScriptedBackend) (measured : Bool)
    (steps : List PoolStep) : List PoolView :=
  let ((views, _), _) := ((steps.mapM showStep).run []).run (poolSession c b measured)
  views.filterMap id

end Scenario
end PoolHealth
