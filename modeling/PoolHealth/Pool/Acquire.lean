import PoolHealth.Pool.Checkout

/-!
# Borrowing a connection

A caller that is ready to wait stands in line for a slot, at most as long as the
configuration allows, and then checks a connection out.  A caller that is not asks for
a slot that is free at once.
-/

namespace PoolHealth

inductive Acquire where
  /-- In line for a slot, since that time. -/
  | queued (t : Ticket) (started : Instant)
  | checkingOut (started : Instant) (k : Checkout)
deriving DecidableEq

namespace Acquire

def await (c : PoolConfig) : Acquire -> Await
  | queued t _ => .slot t
  | checkingOut _ k => k.await c

def proceed (p : ConnectionPool) (now started : Instant) :
    ConnectionPool × Progress Acquire (Except PoolError Lease) :=
  let (p, k) := Checkout.search p now
  (p, .waiting (checkingOut started k))

def start (p : ConnectionPool) (now : Instant) :
    ConnectionPool × Progress Acquire (Except PoolError Lease) :=
  if !p.isReady then (p, .done (.error p.notInitialized))
  else
    match p.slots.tryTake with
    | .taken slots => proceed { p with slots := slots } now now
    | .closed => (p, .done (.error p.notInitialized))
    | .noneFree =>
        ({ p.addWaiter with slots := p.slots.wait }, .waiting (queued p.slots.nextTicket now))

def look (p : ConnectionPool) (now : Instant) (t : Ticket) (started : Instant) :
    ConnectionPool × Progress Acquire (Except PoolError Lease) :=
  match p.slots.standing t with
  | .promised =>
      proceed (ConnectionPool.dropWaiter { p with slots := p.slots.collect t }) now started
  | .closed => ((p.leaveSlotQueue t).dropWaiter, .done (.error p.notInitialized))
  | .waiting => (p, .waiting (queued t started))

/-- The caller has waited for as long as it may. -/
def giveUp (p : ConnectionPool) (t : Ticket) :
    ConnectionPool × Progress Acquire (Except PoolError Lease) :=
  ((p.leaveSlotQueue t).recordExhaustion.dropWaiter,
    .done (.error (.connectionTimeout p.name p.config.connectionTimeout)))

/-- Goes on after a wait; a served request is measured from its start. -/
def step (p : ConnectionPool) (now : Instant) :
    Acquire -> Reply -> ConnectionPool × Progress Acquire (Except PoolError Lease)
  | queued t started, .stirred => look p now t started
  | queued t _, .timedOut => giveUp p t
  | queued t started, _ => (p, .waiting (queued t started))
  | checkingOut started k, r =>
      match k.step .caller p now r with
      | (p, .waiting k) => (p, .waiting (checkingOut started k))
      | (p, .done (.ok l)) => (p.recordWait (now.since started), .done (.ok l))
      | (p, .done (.error e)) => (p, .done (.error e))

def cancel (p : ConnectionPool) (now : Instant) : Acquire -> ConnectionPool
  | queued t _ => (p.leaveSlotQueue t).dropWaiter
  | checkingOut _ k => k.cancel p now

end Acquire

namespace Checkout

/-- A checkout by somebody who does not wait for a slot. -/
def start (p : ConnectionPool) (now : Instant) :
    ConnectionPool × Progress Checkout (Except PoolError Lease) :=
  if !p.isReady then (p, .done (.error p.notInitialized))
  else
    match p.slots.tryTake with
    | .taken slots =>
        let (p, k) := search { p with slots := slots } now
        (p, .waiting k)
    | .closed => (p, .done (.error p.notInitialized))
    | .noneFree => (p, .done (.error (.exhausted p.name)))

end Checkout
end PoolHealth
