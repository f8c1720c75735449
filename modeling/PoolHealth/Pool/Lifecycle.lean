import PoolHealth.Pool.Opening

/-!
# Setting a pool up and shutting it down

Both hold the lifecycle lock from beginning to end.  Setting up opens the least number
of connections; if one cannot be opened the others are closed again.  Shutting down
ends maintenance, turns away those who wait for a slot and closes what is idle.
-/

namespace PoolHealth

inductive WarmUp where
  | queued (t : Ticket)
  /-- These connections are open already, the first one in front. -/
  | opening (opened : List Connection) (o : Opening)
  /-- The connections are closed again because of the error. -/
  | rollingBack (closing : Connection) (rest : List Connection) (e : PoolError)
deriving DecidableEq

namespace WarmUp

def await (c : PoolConfig) : WarmUp -> Await
  | queued t => .lifecycle t
  | opening _ o => o.await c
  | rollingBack closing _ _ => .close closing

/-- Ends with the given outcome and passes the lock on. -/
def finish (p : ConnectionPool) (r : Except PoolError Unit) :
    ConnectionPool × Progress WarmUp (Except PoolError Unit) := (p.releaseLock, .done r)

/-- The connections become idle, and the pool is ready. -/
def furnish (p : ConnectionPool) (now : Instant) (opened : List Connection) : ConnectionPool :=
  let p := opened.foldl (fun p _ => p.recordCreation) p
  let idle := p.idle ++ opened.map fun c => ⟨c, now, now⟩
  ConnectionPool.emit
    { p with
      idle := idle
      stats := { p.stats with idle := idle.length }
      phase := .ready
      maintained := true } .maintenanceStarted

def complete (p : ConnectionPool) (now : Instant) (opened : List Connection) :
    ConnectionPool × Progress WarmUp (Except PoolError Unit) :=
  finish (furnish p now opened) (.ok ())

/-- Opens the next connection, if one is still missing. -/
def goOn (p : ConnectionPool) (now : Instant) (opened : List Connection) :
    ConnectionPool × Progress WarmUp (Except PoolError Unit) :=
  if opened.length < p.config.minSize.toNat then (p, .waiting (opening opened .first))
  else complete p now opened

/-- Closes the connections that are open, one after another, and reports the error. -/
def rollBack (p : ConnectionPool) (e : PoolError) :
    List Connection -> ConnectionPool × Progress WarmUp (Except PoolError Unit)
  | [] => finish (p.setPhase .uninitialized) (.error e)
  | c :: rest => (p, .waiting (rollingBack c rest e))

def enter (p : ConnectionPool) (now : Instant) :
    ConnectionPool × Progress WarmUp (Except PoolError Unit) :=
  match p.phase with
  | .ready | .closed => finish p (.ok ())
  | .uninitialized | .initializing | .shuttingDown => goOn (p.setPhase .initializing) now []

def start (p : ConnectionPool) (now : Instant) :
    ConnectionPool × Progress WarmUp (Except PoolError Unit) :=
  match p.lifecycle.tryTake with
  | .taken lock => enter { p with lifecycle := lock } now
  | .noneFree | .closed =>
      ({ p with lifecycle := p.lifecycle.wait }, .waiting (queued p.lifecycle.nextTicket))

def step (p : ConnectionPool) (now : Instant) :
    WarmUp -> Reply -> ConnectionPool × Progress WarmUp (Except PoolError Unit)
  | queued t, _ =>
      if p.lifecycle.standing t = .promised then
        enter { p with lifecycle := p.lifecycle.collect t } now
      else (p, .waiting (queued t))
  | opening opened o, r =>
      match o.step p now r with
      | (p, .waiting o) => (p, .waiting (opening opened o))
      | (p, .done (.ok c)) => goOn p now (opened ++ [c])
      | (p, .done (.error e)) => rollBack p e opened
  | rollingBack _ rest e, .closed _ | rollingBack _ rest e, .timedOut => rollBack p e rest
  | rollingBack c rest e, _ => (p, .waiting (rollingBack c rest e))

/-- The request is dropped where it stands; the phase stays as it is. -/
def cancel (p : ConnectionPool) : WarmUp -> ConnectionPool
  | queued t => p.leaveLockQueue t
  | opening .. | rollingBack .. => p.releaseLock

end WarmUp

inductive ShutDown where
  | queued (t : Ticket)
  | awaitingMaintenance
  /-- Idle connections are closed, one after another; the last failure is kept. -/
  | closing (c : Connection) (rest : List Connection) (failure : Option BackendError)
deriving DecidableEq

namespace ShutDown

def await : ShutDown -> Await
  | queued t => .lifecycle t
  | awaitingMaintenance => .maintenanceEnd
  | closing c _ _ => .close c

/-- The outcome: the last failure, if there was one. -/
def outcome (p : ConnectionPool) : Option BackendError -> Except PoolError Unit
  | none => .ok ()
  | some e => .error (.backend p.name e)

/-- Ends with the pool closed and passes the lock on. -/
def finish (p : ConnectionPool) (failure : Option BackendError) :
    ConnectionPool × Progress ShutDown (Except PoolError Unit) :=
  ((p.setPhase .closed).releaseLock, .done (outcome p failure))

/-- Closes the next connection, if one is left. -/
def closeNext (p : ConnectionPool) (failure : Option BackendError) :
    List Connection -> ConnectionPool × Progress ShutDown (Except PoolError Unit)
  | [] => finish p failure
  | c :: rest => (p, .waiting (closing c rest failure))

/-- Maintenance has ended: nobody gets a slot any more, and what is idle is closed. -/
def drain (p : ConnectionPool) : ConnectionPool × Progress ShutDown (Except PoolError Unit) :=
  let (p, drained) := p.closeSlots.takeAllIdle
  closeNext p none drained

def enter (p : ConnectionPool) : ConnectionPool × Progress ShutDown (Except PoolError Unit) :=
  match p.phase with
  | .closed => (p.releaseLock, .done (.ok ()))
  | .uninitialized => finish p.closeSlots none
  | .initializing | .ready | .shuttingDown =>
      let p := p.setPhase .shuttingDown
      if p.maintained then
        (ConnectionPool.emit { p with maintained := false } .maintenanceStopping,
          .waiting awaitingMaintenance)
      else drain p

def start (p : ConnectionPool) : ConnectionPool × Progress ShutDown (Except PoolError Unit) :=
  match p.lifecycle.tryTake with
  | .taken lock => enter { p with lifecycle := lock }
  | .noneFree | .closed =>
      ({ p with lifecycle := p.lifecycle.wait }, .waiting (queued p.lifecycle.nextTicket))

def step (p : ConnectionPool) :
    ShutDown -> Reply -> ConnectionPool × Progress ShutDown (Except PoolError Unit)
  | queued t, _ =>
      if p.lifecycle.standing t = .promised then
        enter { p with lifecycle := p.lifecycle.collect t }
      else (p, .waiting (queued t))
  | awaitingMaintenance, _ => drain p
  | closing _ rest failure, .closed (.ok ()) => closeNext p failure rest
  | closing _ rest _, .closed (.error e) => closeNext p (some e) rest
  | closing _ rest _, .timedOut =>
      closeNext p (some (.timeout p.config.validationTimeout)) rest
  | closing c rest failure, _ => (p, .waiting (closing c rest failure))

/-- The request is dropped where it stands; the phase stays as it is. -/
def cancel (p : ConnectionPool) : ShutDown -> ConnectionPool
  | queued t => p.leaveLockQueue t
  | awaitingMaintenance | closing .. => p.releaseLock

end ShutDown
end PoolHealth
