/-!
# Durations

A duration is a whole number of nanoseconds.  The largest one is
`18446744073709551615` seconds and `999999999` nanoseconds, the most that a
64-bit count of seconds and a fraction can hold; the bound is part of the type.
Arithmetic stops at the two ends of the range instead of leaving it.
-/

namespace PoolHealth

structure Duration where
  nanos : Nat
  nanos_le : nanos ≤ 18446744073709551615999999999
deriving DecidableEq

namespace Duration

def nanosPerSec : Nat := 1000000000

def nanosPerMilli : Nat := 1000000

def maxNanos : Nat := 18446744073709551615999999999

/-- The duration of `n` nanoseconds, or the longest one if `n` is past the range. -/
def ofNanos (n : Nat) : Duration :=
  ⟨min n 18446744073709551615999999999, Nat.min_le_right _ _⟩

instance : Inhabited Duration := ⟨⟨0, Nat.zero_le _⟩⟩

def zero : Duration := ⟨0, Nat.zero_le _⟩

def longest : Duration := ⟨18446744073709551615999999999, Nat.le_refl _⟩

/-- Whole seconds given as a 64-bit count, which always fit. -/
def ofSecs (s : UInt64) : Duration :=
  ⟨s.toNat * 1000000000, by
    have := s.toNat_lt
    omega⟩

/-- Milliseconds given as a 64-bit count, which always fit. -/
def ofMillis (ms : UInt64) : Duration :=
  ⟨ms.toNat * 1000000, by
    have := ms.toNat_lt
    omega⟩

/-- Seconds and nanoseconds together, where the nanoseconds may exceed a second
and carry over; `none` past the range. -/
def ofParts? (secs nanos : Nat) : Option Duration :=
  if h : secs * 1000000000 + nanos ≤ 18446744073709551615999999999 then
    some ⟨secs * 1000000000 + nanos, h⟩
  else
    none

def secs (d : Duration) : Nat := d.nanos / nanosPerSec

def subsecNanos (d : Duration) : Nat := d.nanos % nanosPerSec

/-- The duration in whole milliseconds, rounded down. -/
def millis (d : Duration) : Nat := d.nanos / nanosPerMilli

/-- The least number of whole milliseconds that cover the duration. -/
def millisCeil (d : Duration) : Nat := (d.nanos + (nanosPerMilli - 1)) / nanosPerMilli

def isZero (d : Duration) : Bool := d.nanos == 0

/-- The sum, or the longest duration if the sum is past the range. -/
def add (a b : Duration) : Duration := ofNanos (a.nanos + b.nanos)

/-- The difference, or zero if the second duration is longer. -/
def sub (a b : Duration) : Duration := ofNanos (a.nanos - b.nanos)

/-- The multiple, or the longest duration if it is past the range. -/
def scale (d : Duration) (k : Nat) : Duration := ofNanos (d.nanos * k)

/-- An equal share among `k`, rounded down to whole nanoseconds. -/
def share (d : Duration) (k : Nat) : Duration :=
  ⟨d.nanos / k, Nat.le_trans (Nat.div_le_self _ _) d.nanos_le⟩

instance : LT Duration := ⟨fun a b => a.nanos < b.nanos⟩
instance : LE Duration := ⟨fun a b => a.nanos ≤ b.nanos⟩

instance (a b : Duration) : Decidable (a < b) := Nat.decLt a.nanos b.nanos
instance (a b : Duration) : Decidable (a ≤ b) := Nat.decLe a.nanos b.nanos

/-- Thirty years.  Whatever should happen later than that happens then. -/
def longestWait : Duration := ⟨946080000000000000, by decide⟩

/-- The duration as binary floating-point seconds: the whole seconds and the
fraction are converted on their own and then added. -/
def toSecondsFloat (d : Duration) : Float :=
  d.secs.toUInt64.toFloat + d.subsecNanos.toUInt64.toFloat / 1e9

/-!
## Arithmetic in nanoseconds
-/

theorem ext {a b : Duration} (h : a.nanos = b.nanos) : a = b := by
  cases a; cases b; cases h; rfl

theorem nanos_ofNanos_of_le {n : Nat} (h : n ≤ maxNanos) : (ofNanos n).nanos = n :=
  Nat.min_eq_left h

theorem nanos_ofNanos (n : Nat) : (ofNanos n).nanos = min n maxNanos := rfl

@[simp] theorem nanos_share (d : Duration) (k : Nat) : (d.share k).nanos = d.nanos / k := rfl

theorem nanos_sub (a b : Duration) : (a.sub b).nanos = a.nanos - b.nanos := by
  have := a.nanos_le
  simp only [sub, nanos_ofNanos, maxNanos]
  omega

theorem ofParts?_secs_subsecNanos (d : Duration) :
    ofParts? d.secs d.subsecNanos = some d := by
  have hle := d.nanos_le
  have hsum : d.secs * 1000000000 + d.subsecNanos = d.nanos := by
    simp only [secs, subsecNanos, nanosPerSec]
    omega
  unfold ofParts?
  rw [dif_pos (by omega)]
  exact congrArg some (ext hsum)

end Duration

/-!
## Points in time
-/

/-- A point in time, in nanoseconds since the clock started. -/
structure Instant where
  nanos : Nat
deriving DecidableEq, Inhabited

namespace Instant

def ofMillis (ms : Nat) : Instant := ⟨ms * Duration.nanosPerMilli⟩

/-- The time passed from `earlier` to `now` in nanoseconds; zero if `earlier`
lies ahead. -/
def nanosSince (now earlier : Instant) : Nat := now.nanos - earlier.nanos

/-- The time passed from `earlier` to `now`. -/
def since (now earlier : Instant) : Duration := Duration.ofNanos (now.nanosSince earlier)

instance : LE Instant := ⟨fun a b => a.nanos ≤ b.nanos⟩
instance : LT Instant := ⟨fun a b => a.nanos < b.nanos⟩

instance (a b : Instant) : Decidable (a ≤ b) := Nat.decLe a.nanos b.nanos
instance (a b : Instant) : Decidable (a < b) := Nat.decLt a.nanos b.nanos

end Instant

end PoolHealth
