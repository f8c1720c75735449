import PoolHealth.Pool.Opening

/-!
# Checking out a connection

Whoever holds a slot is served by an idle connection if there is a good one: expired
ones are closed on the way, and the first live one is probed.  A connection that fails
its probe is closed, and the search goes on.  When no idle connection is left a new
one is opened.
-/

namespace PoolHealth

/-- Who a connection is checked out for.  Only callers count as hits. -/
inductive CheckoutPurpose where
  | caller
  | healthCheck
deriving DecidableEq

/-- Where a checkout stands; all the time it holds a slot. -/
inductive Checkout where
  /-- Expired connections are closed, one after another; the candidate is next. -/
  | closingExpired (closing : Connection) (rest : List Connection)
      (candidate : Option IdleConnection)
  | validating (l : Lease)
  /-- A connection that failed its probe is closed. -/
  | closingInvalid (c : Connection)
  | opening (o : Opening)
deriving DecidableEq

namespace Checkout

def await (c : PoolConfig) : Checkout -> Await
  | closingExpired closing _ _ => .close closing
  | validating l => .validate l.connection
  | closingInvalid closing => .close closing
  | opening o => o.await c

/-- Turns to the idle connection found, or to a new one if none was. -/
def pursue (p : ConnectionPool) : Option IdleConnection -> ConnectionPool × Checkout
  | some e => (p, validating { connection := e.connection, createdAt := e.createdAt })
  | none => (p.addPending, opening .first)

def search (p : ConnectionPool) (now : Instant) : ConnectionPool × Checkout :=
  match p.takeIdle now with
  | (p, candidate, []) => pursue p candidate
  | (p, candidate, c :: rest) => (p, closingExpired c rest candidate)

def accept (p : ConnectionPool) (purpose : CheckoutPurpose) (l : Lease) :
    ConnectionPool × Progress Checkout (Except PoolError Lease) :=
  (if purpose = .caller then p.recordHit else p, .done (.ok l))

/-- The probe went badly: the connection counts as closed and as an error. -/
def reject (p : ConnectionPool) (now : Instant) (l : Lease) :
    ConnectionPool × Progress Checkout (Except PoolError Lease) :=
  ((p.dropActive.recordClosures 1).recordError now, .waiting (closingInvalid l.connection))

/-- The new connection is open, or it could not be opened. -/
def land (p : ConnectionPool) (now : Instant) :
    Except PoolError Connection -> ConnectionPool × Progress Checkout (Except PoolError Lease)
  | .ok c =>
      (p.recordCreation.addActive.dropPending, .done (.ok { connection := c, createdAt := now }))
  | .error e => (p.dropPending.releaseSlot, .done (.error e))

/-- Goes on after a wait.  It does not matter how the closing of a connection ends. -/
def step (purpose : CheckoutPurpose) (p : ConnectionPool) (now : Instant) :
    Checkout -> Reply -> ConnectionPool × Progress Checkout (Except PoolError Lease)
  | closingExpired _ (c :: rest) candidate, .closed _
  | closingExpired _ (c :: rest) candidate, .timedOut =>
      (p, .waiting (closingExpired c rest candidate))
  | closingExpired _ [] candidate, .closed _
  | closingExpired _ [] candidate, .timedOut =>
      let (p, k) := pursue p candidate
      (p, .waiting k)
  | validating l, .validated true => accept p purpose l
  | validating l, .validated false | validating l, .timedOut => reject p now l
  | closingInvalid _, .closed _ | closingInvalid _, .timedOut =>
      let (p, k) := search p now
      (p, .waiting k)
  | opening o, r =>
      match o.step p now r with
      | (p, .waiting o) => (p, .waiting (opening o))
      | (p, .done r) => land p now r
  | k, _ => (p, .waiting k)

/-- The checkout is dropped where it stands.  A connection that is being probed comes
back; connections that are being closed, and a candidate behind them, are forgotten. -/
def cancel (p : ConnectionPool) (now : Instant) : Checkout -> ConnectionPool
  | closingExpired .. => p.releaseSlot
  | validating l => p.giveBack now l true
  | closingInvalid _ => p.releaseSlot
  | opening _ => p.dropPending.releaseSlot

end Checkout
end PoolHealth
