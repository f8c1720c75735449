import PoolHealth.Config.Pool
import PoolHealth.Metrics.Record
import PoolHealth.Pool.ErrorWindow
import PoolHealth.Pool.Semaphore
import PoolHealth.Pool.Stats
import PoolHealth.Pool.WaitSamples

/-!
# The state of a connection pool

A pool has a slot for each connection that may be open.  A connection is idle, or it
is on loan to somebody who holds a slot.  This module has the state and the changes
that happen at once; how calls are made of them is the matter of other modules.
-/

namespace PoolHealth

inductive PoolPhase where
  | uninitialized
  | initializing
  | ready
  | shuttingDown
  | closed
deriving DecidableEq, Repr

namespace PoolPhase

def title : PoolPhase -> String
  | uninitialized => "Uninitialized"
  | initializing => "Initializing"
  | ready => "Ready"
  | shuttingDown => "ShuttingDown"
  | closed => "Closed"

end PoolPhase

structure Connection where
  id : Nat
deriving DecidableEq, Repr

structure IdleConnection where
  connection : Connection
  createdAt : Instant
  lastUsed : Instant
deriving DecidableEq

/-- A connection on loan, together with the slot that the borrower holds. -/
structure Lease where
  connection : Connection
  createdAt : Instant
  /-- The borrower asked for the connection to be closed. -/
  broken : Bool := false
deriving DecidableEq

/-- What a change of a pool asks of its surroundings, or tells them. -/
inductive PoolEvent where
  /-- The one who waits for a slot with this ticket should look again. -/
  | slotStirred (ticket : Ticket)
  /-- The one who waits for the lifecycle lock with this ticket has it. -/
  | lockPassed (ticket : Ticket)
  /-- A connection is to be closed in the background. -/
  | closeLater (c : Connection)
  | maintenanceStarted
  | maintenanceStopping
  | measured (r : MetricRecord)

/-- What an auditor of a pool's counters writes down.  The pool itself never looks at it,
and nobody else is told. -/
structure Audit where
  /-- The most that `total` has ever been set to. -/
  summit : Nat := 0
  /-- By how much decrements asked for more than a counter had, taken together.  Counters
  stop at zero, so that nothing else would show it. -/
  shortfall : Nat := 0
deriving DecidableEq

namespace Audit

/-- The number of open connections has been set to `total`. -/
def reach (a : Audit) (total : Nat) : Audit := { a with summit := max a.summit total }

/-- A counter that stands at `count` is lowered by `n`. -/
def lower (a : Audit) (count n : Nat) : Audit := { a with shortfall := a.shortfall + (n - count) }

end Audit

structure ConnectionPool where
  config : PoolConfig
  phase : PoolPhase := .uninitialized
  /-- Connections that nobody uses, the one that waited longest first. -/
  idle : List IdleConnection := []
  stats : PoolStats
  waits : WaitSamples := .empty
  errors : ErrorWindow := {}
  /-- Connections that are being opened and not yet counted. -/
  pending : Nat := 0
  /-- One permit for each connection that may be open. -/
  slots : Semaphore
  /-- The lock of those who set the pool up or shut it down. -/
  lifecycle : Semaphore := .lock
  /-- Whether maintenance was started and nobody has stopped it. -/
  maintained : Bool := false
  /-- Events that the surroundings have not yet taken note of, oldest first. -/
  outbox : List PoolEvent := []
  audit : Audit := {}

namespace ConnectionPool

def maxPermits : Nat := Nat.pow 2 61 - 1

/-- The most connections for which room can be set aside: a connection that waits
takes forty bytes, and memory has less than `2 ^ 63` of them. -/
def maxRoom : Nat := (Nat.pow 2 63 - 1) / 40

/-- Whether a pool of that size can be made at all. -/
def fits (c : PoolConfig) : Bool := c.maxSize.toNat ≤ min maxPermits maxRoom

def ofConfig (c : PoolConfig) : ConnectionPool where
  config := c
  stats := .fresh c.name
  slots := .ofPermits c.maxSize.toNat

def name (p : ConnectionPool) : String := p.config.name

def isReady (p : ConnectionPool) : Bool := p.phase == .ready

/-- The error of a pool that is not ready. -/
def notInitialized (p : ConnectionPool) : PoolError := .notInitialized p.name

/-!
## Events and measurements
-/

def emit (p : ConnectionPool) (e : PoolEvent) : ConnectionPool :=
  { p with outbox := p.outbox ++ [e] }

/-- An event that may not be there. -/
def emit? (p : ConnectionPool) : Option PoolEvent -> ConnectionPool
  | some e => p.emit e
  | none => p

def labels (p : ConnectionPool) : Labels := [("pool", p.name)]

/-!
## Counting
-/

def setPhase (p : ConnectionPool) (phase : PoolPhase) : ConnectionPool := { p with phase := phase }

def recordCreation (p : ConnectionPool) : ConnectionPool :=
  { p with
    stats :=
      PoolStats.recordPeak
        { p.stats with creations := p.stats.creations + 1, total := p.stats.total + 1 }
    audit := p.audit.reach (p.stats.total + 1) }

/-- Counts connections that are open no more. -/
def recordClosures (p : ConnectionPool) (n : Nat) : ConnectionPool :=
  { p with
    stats := { p.stats with total := p.stats.total - n, closures := p.stats.closures + n }
    audit := (p.audit.lower p.stats.total n).reach (p.stats.total - n) }

def recordError (p : ConnectionPool) (now : Instant) : ConnectionPool :=
  { p with
    stats := { p.stats with errors := p.stats.errors + 1 }
    errors := p.errors.record now
    outbox := p.outbox ++ [.measured (.increment Metrics.connectionErrorsTotal p.labels)] }

/-- Counts a request that found no slot in time and reports it. -/
def recordExhaustion (p : ConnectionPool) : ConnectionPool :=
  { p with
    stats :=
      { p.stats with misses := p.stats.misses + 1, exhaustions := p.stats.exhaustions + 1 }
    outbox := p.outbox ++ [.measured (.increment Metrics.exhaustionsTotal p.labels)] }

/-- Notes how long a served request took and reports it. -/
def recordWait (p : ConnectionPool) (wait : Duration) : ConnectionPool :=
  let waits := p.waits.record wait
  { p with
    waits := waits
    stats := { p.stats with averageWait := waits.average }
    outbox :=
      p.outbox ++ [.measured (.observe Metrics.acquireSeconds wait.toSecondsFloat p.labels)] }

def recordHit (p : ConnectionPool) : ConnectionPool :=
  { p with stats := { p.stats with hits := p.stats.hits + 1 } }

def addWaiter (p : ConnectionPool) : ConnectionPool :=
  { p with stats := { p.stats with waiting := p.stats.waiting + 1 } }

def dropWaiter (p : ConnectionPool) : ConnectionPool :=
  { p with
    stats := { p.stats with waiting := p.stats.waiting - 1 }
    audit := p.audit.lower p.stats.waiting 1 }

def addActive (p : ConnectionPool) : ConnectionPool :=
  { p with stats := { p.stats with active := p.stats.active + 1 } }

def dropActive (p : ConnectionPool) : ConnectionPool :=
  { p with
    stats := { p.stats with active := p.stats.active - 1 }
    audit := p.audit.lower p.stats.active 1 }

def addPending (p : ConnectionPool) : ConnectionPool := { p with pending := p.pending + 1 }

def dropPending (p : ConnectionPool) : ConnectionPool :=
  { p with pending := p.pending - 1, audit := p.audit.lower p.pending 1 }

def dropIdle (p : ConnectionPool) (n : Nat) : ConnectionPool :=
  { p with
    stats := { p.stats with idle := p.stats.idle - n }
    audit := p.audit.lower p.stats.idle n }

/-!
## Slots and the lifecycle lock
-/

def releaseSlot (p : ConnectionPool) : ConnectionPool :=
  ConnectionPool.emit? { p with slots := p.slots.release }
    (p.slots.successor?.map .slotStirred)

/-- The holder of a ticket stops waiting for a slot. -/
def leaveSlotQueue (p : ConnectionPool) (t : Ticket) : ConnectionPool :=
  ConnectionPool.emit? { p with slots := p.slots.leave t }
    ((p.slots.successorOnLeave? t).map .slotStirred)

/-- Closes the slots; everybody in line learns of it. -/
def closeSlots (p : ConnectionPool) : ConnectionPool :=
  { p with
    slots := p.slots.close
    outbox := p.outbox ++ p.slots.queue.map .slotStirred }

def releaseLock (p : ConnectionPool) : ConnectionPool :=
  ConnectionPool.emit? { p with lifecycle := p.lifecycle.release }
    (p.lifecycle.successor?.map .lockPassed)

/-- The holder of a ticket stops waiting for the lifecycle lock. -/
def leaveLockQueue (p : ConnectionPool) (t : Ticket) : ConnectionPool :=
  ConnectionPool.emit? { p with lifecycle := p.lifecycle.leave t }
    ((p.lifecycle.successorOnLeave? t).map .lockPassed)

/-!
## Idle connections
-/

/-- Whether a connection is too old, or was idle for too long. -/
def isExpired (c : PoolConfig) (now : Instant) (e : IdleConnection) : Bool :=
  decide (c.maxLifetime.nanos ≤ now.nanosSince e.createdAt)
    || decide (c.idleTimeout.nanos ≤ now.nanosSince e.lastUsed)

/-- The connections that are passed over when an idle one is taken. -/
def expiredInFront (c : PoolConfig) (now : Instant) (idle : List IdleConnection) :
    List IdleConnection := idle.takeWhile (isExpired c now)

/-- The idle connections from the first one on that is not expired. -/
def fromFirstLive (c : PoolConfig) (now : Instant) (idle : List IdleConnection) :
    List IdleConnection := idle.dropWhile (isExpired c now)

theorem expiredInFront_append_fromFirstLive (c : PoolConfig) (now : Instant)
    (idle : List IdleConnection) :
    expiredInFront c now idle ++ fromFirstLive c now idle = idle :=
  List.takeWhile_append_dropWhile

theorem isExpired_of_mem_expiredInFront {c : PoolConfig} {now : Instant}
    {idle : List IdleConnection} {e : IdleConnection} (h : e ∈ expiredInFront c now idle) :
    isExpired c now e = true :=
  List.all_eq_true.mp List.all_takeWhile e h

theorem isExpired_of_fromFirstLive_eq_cons {c : PoolConfig} {now : Instant}
    {idle rest : List IdleConnection} {e : IdleConnection}
    (h : fromFirstLive c now idle = e :: rest) : isExpired c now e = false := by
  have := List.head?_dropWhile_not (isExpired c now) idle
  unfold fromFirstLive at h
  rw [h] at this
  simpa using this

/-- Takes the first idle connection that is not expired, and the expired ones in front
of it. -/
def takeIdle (p : ConnectionPool) (now : Instant) :
    ConnectionPool × Option IdleConnection × List Connection :=
  let expired := expiredInFront p.config now p.idle
  let counted := p.recordClosures expired.length
  match fromFirstLive p.config now p.idle with
  | [] =>
      ({ counted.dropIdle expired.length with idle := [] }, none, expired.map (·.connection))
  | e :: rest =>
      (ConnectionPool.addActive { counted.dropIdle (expired.length + 1) with idle := rest },
        some e, expired.map (·.connection))

def takeExpired (p : ConnectionPool) (now : Instant) : ConnectionPool × List Connection :=
  let (expired, live) := p.idle.partition (isExpired p.config now)
  let counted := p.recordClosures expired.length
  ({ counted with idle := live, stats := { counted.stats with idle := live.length } },
    expired.map (·.connection))

def takeAllIdle (p : ConnectionPool) : ConnectionPool × List Connection :=
  let counted := p.recordClosures p.idle.length
  ({ counted with idle := [], stats := { counted.stats with idle := 0 } },
    p.idle.map (·.connection))

def pushIdle (p : ConnectionPool) (e : IdleConnection) : ConnectionPool :=
  { p with idle := p.idle ++ [e], stats := { p.stats with idle := p.stats.idle + 1 } }

/-!
## Loans
-/

/-- Whether a connection that comes back may be lent again. -/
def isReusable (p : ConnectionPool) (now : Instant) (l : Lease) : Bool :=
  p.isReady && !l.broken && decide (now.nanosSince l.createdAt < p.config.maxLifetime.nanos)

/-- A loan ends: the connection becomes idle if it may be lent again and is closed in
the background otherwise, and then the slot is free.  Without `background` there is
nobody to close the connection, and it is dropped. -/
def giveBack (p : ConnectionPool) (now : Instant) (l : Lease) (background : Bool) :
    ConnectionPool :=
  let q := p.dropActive
  let q :=
    if p.isReusable now l then q.pushIdle ⟨l.connection, l.createdAt, now⟩
    else
      let q := q.recordClosures 1
      if background then q.emit (.closeLater l.connection) else q
  q.releaseSlot

/-- Reserves a place for a connection that brings the pool up to its least size, if it
is below. -/
def reserveRefill? (p : ConnectionPool) : Option ConnectionPool :=
  let reserved := p.stats.total + p.pending
  if p.config.minSize.toNat ≤ reserved ∨ p.config.maxSize.toNat ≤ reserved then none
  else some p.addPending

end ConnectionPool
end PoolHealth
