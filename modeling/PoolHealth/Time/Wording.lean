import PoolHealth.Time.Duration

/-!
# Durations in words

Two texts of a duration.  `Duration.phrase` lists its calendar-like parts, as in
`1h 30m`, and serves in messages.  `Duration.compact` writes one decimal number
with the largest unit that is not zero, as in `1.5s`, and serves in diagnostics.
-/

namespace PoolHealth
namespace Duration

/-- Seconds in a year of 365.25 days. -/
def secsPerYear : Nat := 31557600

/-- Seconds in a month of 30.44 days. -/
def secsPerMonth : Nat := 2630016

def secsPerDay : Nat := 86400

/-- A count with a unit that takes a plural, left out when the count is zero. -/
def countedPart (n : Nat) (unit : String) : List String :=
  if n = 0 then [] else [toString n ++ unit ++ (if n = 1 then "" else "s")]

/-- A count with an abbreviated unit, left out when the count is zero. -/
def abbreviatedPart (n : Nat) (unit : String) : List String :=
  if n = 0 then [] else [toString n ++ unit]

/-- The parts of a duration from years down to nanoseconds, without zeros. -/
def phraseParts (d : Duration) : List String :=
  let inYear := d.secs % secsPerYear
  let inMonth := inYear % secsPerMonth
  let inDay := inMonth % secsPerDay
  countedPart (d.secs / secsPerYear) "year"
    ++ countedPart (inYear / secsPerMonth) "month"
    ++ countedPart (inMonth / secsPerDay) "day"
    ++ abbreviatedPart (inDay / 3600) "h"
    ++ abbreviatedPart (inDay % 3600 / 60) "m"
    ++ abbreviatedPart (inDay % 60) "s"
    ++ abbreviatedPart (d.subsecNanos / 1000000) "ms"
    ++ abbreviatedPart (d.subsecNanos / 1000 % 1000) "us"
    ++ abbreviatedPart (d.subsecNanos % 1000) "ns"

/-- The non-zero parts joined by spaces, and `0s` for the empty duration. -/
def phrase (d : Duration) : String :=
  if d.isZero then "0s" else " ".intercalate d.phraseParts

/-- The decimal digits of a fraction that is written with `width` places, without
trailing zeros. -/
def fractionDigits (width n : Nat) : List Char :=
  let digits := Nat.toDigits 10 n
  let padded := List.replicate (width - digits.length) '0' ++ digits
  (padded.reverse.dropWhile (· == '0')).reverse

/-- A number with a decimal fraction of at most `width` places. -/
def decimalWith (whole width fraction : Nat) : String :=
  if fraction = 0 then toString whole
  else toString whole ++ "." ++ String.ofList (fractionDigits width fraction)

/-- The duration in the largest of seconds, milliseconds, microseconds and
nanoseconds that is not zero, with as many places as it needs. -/
def compact (d : Duration) : String :=
  let n := d.subsecNanos
  if d.secs > 0 then decimalWith d.secs 9 n ++ "s"
  else if n ≥ 1000000 then decimalWith (n / 1000000) 6 (n % 1000000) ++ "ms"
  else if n ≥ 1000 then decimalWith (n / 1000) 3 (n % 1000) ++ "µs"
  else toString n ++ "ns"

end Duration
end PoolHealth
