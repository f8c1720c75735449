import PoolHealth.Pool.Checkup
import PoolHealth.Pool.Lifecycle

/-!
# Calls of a pool

Everything that may be asked of a pool, as one kind of call: what is asked, where the
call stands, and how it is answered.  The system of all calls of a pool is made of
these steps in any order.
-/

namespace PoolHealth

inductive PoolRequest where
  | acquire
  | tryAcquire
  | checkup
  | warmUp
  | shutDown
deriving DecidableEq, Repr

inductive PoolCall where
  | acquire (c : Acquire)
  | tryAcquire (c : Checkout)
  | checkup (c : Checkup)
  | warmUp (c : WarmUp)
  | shutDown (c : ShutDown)
deriving DecidableEq

inductive PoolAnswer where
  | lent (r : Except PoolError Lease)
  | checked (healthy : Bool)
  | switched (r : Except PoolError Unit)

namespace PoolCall

def await (c : PoolConfig) : PoolCall -> Await
  | acquire k => k.await c
  | tryAcquire k => k.await c
  | checkup k => k.await c
  | warmUp k => k.await c
  | shutDown k => k.await

/-- Progress of a part of a call as progress of the call. -/
def wrap {σ α : Type} (call : σ -> PoolCall) (answer : α -> PoolAnswer) :
    ConnectionPool × Progress σ α -> ConnectionPool × Progress PoolCall PoolAnswer
  | (p, .waiting s) => (p, .waiting (call s))
  | (p, .done a) => (p, .done (answer a))

def start (p : ConnectionPool) (now : Instant) :
    PoolRequest -> ConnectionPool × Progress PoolCall PoolAnswer
  | .acquire => wrap acquire .lent (Acquire.start p now)
  | .tryAcquire => wrap tryAcquire .lent (Checkout.start p now)
  | .checkup => wrap checkup .checked (Checkup.start p now)
  | .warmUp => wrap warmUp .switched (WarmUp.start p now)
  | .shutDown => wrap shutDown .switched (ShutDown.start p)

def step (p : ConnectionPool) (now : Instant) :
    PoolCall -> Reply -> ConnectionPool × Progress PoolCall PoolAnswer
  | acquire k, r => wrap acquire .lent (k.step p now r)
  | tryAcquire k, r => wrap tryAcquire .lent (k.step .caller p now r)
  | checkup k, r => wrap checkup .checked (k.step p now r)
  | warmUp k, r => wrap warmUp .switched (k.step p now r)
  | shutDown k, r => wrap shutDown .switched (k.step p r)

def cancel (p : ConnectionPool) (now : Instant) : PoolCall -> ConnectionPool
  | acquire k => k.cancel p now
  | tryAcquire k => k.cancel p now
  | checkup k => k.cancel p now
  | warmUp k => k.cancel p
  | shutDown k => k.cancel p

end PoolCall
end PoolHealth
