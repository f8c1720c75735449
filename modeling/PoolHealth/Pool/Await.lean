import PoolHealth.Pool.State

/-!
# Waiting and going on

A call of a pool runs until it has to wait.  What it waits for and the ways in which
that may end are described here; a call is a value that says where it stands, and it
goes on when it is told how its wait ended.  Nothing is said about when that happens,
or about what other calls do in between.
-/

namespace PoolHealth

inductive Await where
  /-- The holder of the ticket waits for a slot. -/
  | slot (t : Ticket)
  /-- The holder of the ticket waits for the lifecycle lock. -/
  | lifecycle (t : Ticket)
  /-- Maintenance has to come to its end. -/
  | maintenanceEnd
  | create
  | validate (c : Connection)
  | close (c : Connection)
  | pause (d : Duration)
deriving DecidableEq

namespace Await

/-- How long a wait may take before it is given up, if it has a limit. -/
def limit? (c : PoolConfig) : Await -> Option Duration
  | slot _ | create => some c.connectionTimeout
  | validate _ | close _ => some c.validationTimeout
  | lifecycle _ | maintenanceEnd | pause _ => none

end Await

inductive Reply where
  /-- Something has changed, and the call has to look for itself. -/
  | stirred
  /-- The limit was reached first. -/
  | timedOut
  | created (r : Except BackendError Connection)
  | validated (ok : Bool)
  | closed (r : Except BackendError Unit)

/-- What a call did: it waits again, or it is over. -/
inductive Progress (σ α : Type) where
  | waiting (s : σ)
  | done (a : α)

namespace Progress

/-- The same progress of a call that this one is a part of. -/
def lift {σ τ α : Type} (f : σ -> τ) : Progress σ α -> Progress τ α
  | waiting s => waiting (f s)
  | done a => done a

end Progress
end PoolHealth
