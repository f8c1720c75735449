import PoolHealth.Manager.PoolManager

/-!
# Calls of the pool manager

Bringing up goes through the definitions in order and undoes everything if one of
them fails.  Closing and checking go to all pools at the same time, so that what one
pool does has no influence on the others.
-/

namespace PoolHealth

inductive ManagerAwait where
  /-- The holder of the ticket waits for the lifecycle lock. -/
  | lock (t : Ticket)
  | build (d : PoolDefinition)
  | warmUp (p : PoolRef)
  | shutDown (p : PoolRef)
  /-- Pools are shut down side by side. -/
  | shutDownAll (ps : List PoolRef)
  /-- Pools are checked side by side. -/
  | checkAll (ps : List PoolRef)
deriving DecidableEq

inductive ManagerReply where
  | stirred
  | built (r : Except PoolError PoolRef)
  | warmedUp (r : Except PoolError Unit)
  | closed (r : Except PoolError Unit)
  | allClosed
  /-- The verdicts on the pools; one whose check broke down has none. -/
  | allChecked (verdicts : List (Option Bool))

inductive BringUp where
  | queued (t : Ticket)
  | building (d : PoolDefinition) (rest : List PoolDefinition) (started : List (String × PoolRef))
  | warming (d : PoolDefinition) (p : PoolRef) (rest : List PoolDefinition)
      (started : List (String × PoolRef))
  /-- Pools are shut down again because of the error. -/
  | rollingBack (p : PoolRef) (rest : List (String × PoolRef)) (e : ManagerError)
deriving DecidableEq

namespace BringUp

def await : BringUp -> ManagerAwait
  | queued t => .lock t
  | building d _ _ => .build d
  | warming _ p _ _ => .warmUp p
  | rollingBack p _ _ => .shutDown p

/-- The pools that the call holds, and nobody else. -/
def owned : BringUp -> List PoolRef
  | queued _ => []
  | building _ _ started => started.map (·.2)
  | warming _ p _ started => started.map (·.2) ++ [p]
  | rollingBack p rest _ => p :: rest.map (·.2)

/-- Ends with the given outcome and passes the lock on. -/
def finish (m : PoolManager) (r : Except ManagerError Unit) :
    PoolManager × Progress BringUp (Except ManagerError Unit) := (m.releaseLock, .done r)

def complete (m : PoolManager) (started : List (String × PoolRef)) :
    PoolManager × Progress BringUp (Except ManagerError Unit) :=
  finish
    { m with
      pools := started.foldl (fun ps (name, p) => Keyed.insert name p ps) m.pools
      phase := .ready
      initialized := true }
    (.ok ())

def goOn (m : PoolManager) (started : List (String × PoolRef)) :
    List PoolDefinition -> PoolManager × Progress BringUp (Except ManagerError Unit)
  | [] => complete m started
  | d :: rest => (m, .waiting (building d rest started))

/-- Shuts the started pools down, one after another, and reports the error. -/
def rollBack (m : PoolManager) (e : ManagerError) :
    List (String × PoolRef) -> PoolManager × Progress BringUp (Except ManagerError Unit)
  | [] => finish m (.error e)
  | (_, p) :: rest => (m, .waiting (rollingBack p rest e))

def enter (m : PoolManager) : PoolManager × Progress BringUp (Except ManagerError Unit) :=
  match m.phase with
  | .ready => finish m (.ok ())
  | .closed => finish m (.error .alreadyClosed)
  | .uninitialized =>
      match m.config.fault? with
      | some e => finish m (.error e)
      | none => goOn m [] m.config.pools

def start (m : PoolManager) : PoolManager × Progress BringUp (Except ManagerError Unit) :=
  match m.lifecycle.tryTake with
  | .taken lock => enter { m with lifecycle := lock }
  | .noneFree | .closed =>
      ({ m with lifecycle := m.lifecycle.wait }, .waiting (queued m.lifecycle.nextTicket))

def step (m : PoolManager) :
    BringUp -> ManagerReply -> PoolManager × Progress BringUp (Except ManagerError Unit)
  | queued t, _ =>
      if m.lifecycle.standing t = .promised then
        enter { m with lifecycle := m.lifecycle.collect t }
      else (m, .waiting (queued t))
  | building d rest started, .built (.ok p) => (m, .waiting (warming d p rest started))
  | building d _ started, .built (.error e) =>
      rollBack m (.poolInitialization d.name e) started
  | warming d p rest started, .warmedUp (.ok ()) => goOn m (started ++ [(d.name, p)]) rest
  | warming d _ _ started, .warmedUp (.error e) =>
      rollBack m (.poolInitialization d.name e) started
  | rollingBack _ rest e, .closed _ => rollBack m e rest
  | b, _ => (m, .waiting b)

def cancel (m : PoolManager) : BringUp -> PoolManager
  | queued t => m.leaveLockQueue t
  | building .. | warming .. | rollingBack .. => m.releaseLock

end BringUp

inductive CloseAll where
  | queued (t : Ticket)
  | closing (pools : List (String × PoolRef))
deriving DecidableEq

namespace CloseAll

def await : CloseAll -> ManagerAwait
  | queued t => .lock t
  | closing pools => .shutDownAll (pools.map (·.2))

/-- The lock is held; from now on nobody finds a pool by its name. -/
def enter (m : PoolManager) : PoolManager × Progress CloseAll Unit :=
  if m.phase = .closed then (m.releaseLock, .done ())
  else ({ m with pools := [] }, .waiting (closing m.pools))

def start (m : PoolManager) : PoolManager × Progress CloseAll Unit :=
  match m.lifecycle.tryTake with
  | .taken lock => enter { m with lifecycle := lock }
  | .noneFree | .closed =>
      ({ m with lifecycle := m.lifecycle.wait }, .waiting (queued m.lifecycle.nextTicket))

/-- Goes on after a wait; how the pools ended does not matter. -/
def step (m : PoolManager) : CloseAll -> ManagerReply -> PoolManager × Progress CloseAll Unit
  | queued t, _ =>
      if m.lifecycle.standing t = .promised then
        enter { m with lifecycle := m.lifecycle.collect t }
      else (m, .waiting (queued t))
  | closing _, .allClosed =>
      (PoolManager.releaseLock { m with phase := .closed, initialized := false }, .done ())
  | closing pools, _ => (m, .waiting (closing pools))

def cancel (m : PoolManager) : CloseAll -> PoolManager
  | queued t => m.leaveLockQueue t
  | closing _ => m.releaseLock

end CloseAll

/-- A check of all pools that are in use when it begins. -/
structure CheckAll where
  pools : List (String × PoolRef)
deriving DecidableEq

namespace CheckAll

def await (c : CheckAll) : ManagerAwait := .checkAll (c.pools.map (·.2))

def start (m : PoolManager) : CheckAll := ⟨m.pools⟩

/-- The verdict on each pool; a check that broke down speaks against its pool. -/
def verdicts (c : CheckAll) (vs : List (Option Bool)) : List (String × Bool) :=
  (c.pools.zip vs).map fun ((name, _), v) => (name, v.getD false)

def step (c : CheckAll) : ManagerReply -> Progress CheckAll (List (String × Bool))
  | .allChecked vs => .done (c.verdicts vs)
  | _ => .waiting c

end CheckAll
end PoolHealth
