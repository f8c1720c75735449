import PoolHealth.Pool.Await

/-!
# Scripted backends

A backend that does as it is told: how long its operations take, which of them fail,
and which break down.  It counts what it was asked for.  Delays are those at the time
when an operation begins, everything else is as it is when the operation ends.
-/

namespace PoolHealth

/-- The settings and counters of a scripted backend; delays are in milliseconds. -/
structure ScriptedBackend where
  kind : BackendKind := .other
  createDelay : Nat := 0
  validateDelay : Nat := 0
  closeDelay : Nat := 0
  /-- The number of creations that fail from now on. -/
  failCreates : Nat := 0
  createError : BackendError := .connect "mock refused connection"
  /-- What closing a connection fails with, if it fails. -/
  closeError : Option BackendError := none
  allInvalid : Bool := false
  /-- These connections do not pass a probe. -/
  invalidIds : List Nat := []
  breaksOnCreate : Bool := false
  breaksOnValidate : Bool := false
  created : Nat := 0
  validated : Nat := 0
  closed : Nat := 0

namespace ScriptedBackend

def delay (b : ScriptedBackend) : Await -> Nat
  | .create => b.createDelay
  | .validate _ => b.validateDelay
  | .close _ => b.closeDelay
  | _ => 0

def start (b : ScriptedBackend) : Await -> ScriptedBackend
  | .validate _ => { b with validated := b.validated + 1 }
  | _ => b

def finishCreate (b : ScriptedBackend) : ScriptedBackend × Option Reply :=
  if b.breaksOnCreate then (b, none)
  else if b.failCreates = 0 then
    ({ b with created := b.created + 1 }, some (.created (.ok ⟨b.created⟩)))
  else ({ b with failCreates := b.failCreates - 1 }, some (.created (.error b.createError)))

def finishValidate (b : ScriptedBackend) (c : Connection) : Option Reply :=
  if b.breaksOnValidate then none
  else some (.validated (!b.allInvalid && !b.invalidIds.contains c.id))

def finishClose (b : ScriptedBackend) : ScriptedBackend × Reply :=
  ({ b with closed := b.closed + 1 },
    .closed
      (match b.closeError with
      | none => .ok ()
      | some e => .error e))

/-- The delay of an operation is over; without a reply the operation breaks down. -/
def finish (b : ScriptedBackend) : Await -> ScriptedBackend × Option Reply
  | .create => b.finishCreate
  | .validate c => (b, b.finishValidate c)
  | .close _ =>
      let (b, r) := b.finishClose
      (b, some r)
  | _ => (b, some .stirred)

end ScriptedBackend
end PoolHealth
