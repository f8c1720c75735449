import PoolHealth.Pool.Acquire

/-!
# Health checks of a pool

A health check closes the expired connections, opens new ones until the pool has its
least size, and probes one connection.  The pool is healthy if the probe went well, few
errors happened of late, and the pool is still ready in the end.
-/

namespace PoolHealth

inductive Checkup where
  /-- Expired connections are closed, one after another. -/
  | evicting (closing : Connection) (rest : List Connection)
  /-- A connection is opened to bring the pool up to its least size; it holds a slot. -/
  | refilling (o : Opening)
  | probing (k : Checkout)
deriving DecidableEq

namespace Checkup

def await (c : PoolConfig) : Checkup -> Await
  | evicting closing _ => .close closing
  | refilling o => o.await c
  | probing k => k.await c

/-- Whether few enough errors happened within the last interval. -/
def fewErrors (p : ConnectionPool) (now : Instant) : Bool :=
  p.errors.within p.config.healthCheckInterval now ≤ ErrorWindow.tolerated

/-- Notes that the pool was checked and reports the verdict. -/
def report (p : ConnectionPool) (now : Instant) (healthy : Bool) : ConnectionPool :=
  let p := { p with stats := { p.stats with lastHealthCheck := some (.ofInstant now) } }
  p.emit (.measured (.setGauge Metrics.poolHealthy (if healthy then 1.0 else 0.0) p.labels))

/-- The verdict, once it is known how the probe went. -/
def conclude (p : ConnectionPool) (now : Instant) (probeOk : Bool) :
    ConnectionPool × Progress Checkup Bool :=
  let healthy := probeOk && fewErrors p now && p.isReady
  (report p now healthy, .done healthy)

/-- How the probe went: a connection that was checked out comes back at once, and a
pool whose slots are all taken is busy but not ill. -/
def settleProbe (p : ConnectionPool) (now : Instant) :
    Except PoolError Lease -> ConnectionPool × Progress Checkup Bool
  | .ok l => conclude (p.giveBack now l true) now true
  | .error (.exhausted _) => conclude p now true
  | .error _ => conclude p now false

def probe (p : ConnectionPool) (now : Instant) : ConnectionPool × Progress Checkup Bool :=
  match Checkout.start p now with
  | (p, .waiting k) => (p, .waiting (probing k))
  | (p, .done r) => settleProbe p now r

/-- Opens one more connection if the pool is below its least size and a slot is free,
and probes otherwise. -/
def refill (p : ConnectionPool) (now : Instant) : ConnectionPool × Progress Checkup Bool :=
  match p.reserveRefill? with
  | none => probe p now
  | some reserved =>
      match reserved.slots.tryTake with
      | .taken slots => ({ reserved with slots := slots }, .waiting (refilling .first))
      | .noneFree | .closed => probe reserved.dropPending now

/-- A refill has ended; after a failed one there is no other. -/
def settleRefill (p : ConnectionPool) (now : Instant) :
    Except PoolError Connection -> ConnectionPool × Progress Checkup Bool
  | .ok c => refill ((p.recordCreation.pushIdle ⟨c, now, now⟩).releaseSlot.dropPending) now
  | .error _ => probe p.releaseSlot.dropPending now

def start (p : ConnectionPool) (now : Instant) : ConnectionPool × Progress Checkup Bool :=
  if !p.isReady then (p, .done false)
  else
    match p.takeExpired now with
    | (p, []) => refill p now
    | (p, c :: rest) => (p, .waiting (evicting c rest))

def step (p : ConnectionPool) (now : Instant) :
    Checkup -> Reply -> ConnectionPool × Progress Checkup Bool
  | evicting _ (c :: rest), .closed _ | evicting _ (c :: rest), .timedOut =>
      (p, .waiting (evicting c rest))
  | evicting _ [], .closed _ | evicting _ [], .timedOut => refill p now
  | evicting c rest, _ => (p, .waiting (evicting c rest))
  | refilling o, r =>
      match o.step p now r with
      | (p, .waiting o) => (p, .waiting (refilling o))
      | (p, .done r) => settleRefill p now r
  | probing k, r =>
      match k.step .healthCheck p now r with
      | (p, .waiting k) => (p, .waiting (probing k))
      | (p, .done r) => settleProbe p now r

def cancel (p : ConnectionPool) (now : Instant) : Checkup -> ConnectionPool
  | evicting .. => p
  | refilling _ => p.releaseSlot.dropPending
  | probing k => k.cancel p now

end Checkup
end PoolHealth
