import PoolHealth.Time.Duration

/-!
# Recent errors

The times of the latest connection errors.  Only as many are kept as are needed to
tell whether more than the tolerated number happened within a window of time.
-/

namespace PoolHealth

/-- The times of the latest errors, oldest first. -/
structure ErrorWindow where
  times : List Instant := []
deriving DecidableEq

namespace ErrorWindow

/-- The number of errors within a window that a healthy pool may have. -/
def tolerated : Nat := 5

/-- Notes an error; of more times than the tolerated number the oldest goes. -/
def record (w : ErrorWindow) (now : Instant) : ErrorWindow :=
  ⟨(if w.times.length > tolerated then w.times.drop 1 else w.times) ++ [now]⟩

/-- The number of noted errors that happened less than `window` ago. -/
def within (w : ErrorWindow) (window : Duration) (now : Instant) : Nat :=
  (w.times.filter fun t => now.nanosSince t < window.nanos).length

end ErrorWindow
end PoolHealth
