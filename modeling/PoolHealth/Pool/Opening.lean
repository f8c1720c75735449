import PoolHealth.Pool.Await

/-!
# Opening connections

A connection is opened in as many attempts as the configuration allows, with a pause
after each failed one but the last.  Each failure counts as a connection error.
-/

namespace PoolHealth

inductive Opening where
  /-- The attempt with that number, counted from one, is under way. -/
  | creating (attempt : Nat)
  /-- The attempt has failed, and there will be another one. -/
  | pausing (attempt : Nat)
deriving DecidableEq

namespace Opening

/-- The first attempt. -/
def first : Opening := creating 1

/-- The number of attempts; there is always one. -/
def attempts (c : PoolConfig) : Nat := max c.retryAttempts.toNat 1

theorem attempts_pos (c : PoolConfig) : 0 < attempts c := Nat.le_max_right _ _

def backoff (c : PoolConfig) (attempt : Nat) : Duration := c.retryBackoff attempt.toUInt32

def await (c : PoolConfig) : Opening -> Await
  | creating _ => .create
  | pausing k => .pause (backoff c k)

def fail (p : ConnectionPool) (now : Instant) (attempt : Nat) (e : BackendError) :
    ConnectionPool × Progress Opening (Except PoolError Connection) :=
  let p := p.recordError now
  if attempt < attempts p.config then (p, .waiting (pausing attempt))
  else (p, .done (.error (.backend p.name e)))

def step (p : ConnectionPool) (now : Instant) :
    Opening -> Reply -> ConnectionPool × Progress Opening (Except PoolError Connection)
  | creating _, .created (.ok c) => (p, .done (.ok c))
  | creating k, .created (.error e) => fail p now k e
  | creating k, .timedOut => fail p now k (.timeout p.config.connectionTimeout)
  | pausing k, .stirred => (p, .waiting (creating (k + 1)))
  | o, _ => (p, .waiting o)

end Opening
end PoolHealth
