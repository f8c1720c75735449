import PoolHealth.Decimal.Binary64

/-!
# The fewest decimal digits that read back

Every number that rounds to a given floating-point number lies in an interval
around it.  `shortest` looks for a decimal in that interval with one digit, then
with two, and so on up to seventeen, among the two neighbours of the number on
each decimal grid.  The first grid with a hit wins, and of two hits the nearer.
-/

namespace PoolHealth
namespace Decimal

open Binary64 (Magnitude)

/-- Which of two decimals at the same distance is taken. -/
inductive Tie where
  | up
  | toEven
deriving DecidableEq, Repr

/-- The decimal `digits · 10 ^ exponent`. -/
structure Digits where
  digits : Nat
  exponent : Int
deriving DecidableEq, Repr

/-- The numbers that round to a magnitude, as twice-scaled integers over a common
denominator: the magnitude itself and the two ends of its interval. -/
structure Interval where
  low : Nat
  value : Nat
  high : Nat
  denominator : Nat
  closed : Bool

/-- The interval of a magnitude; it is half as wide below a power of two, and it
has its ends exactly when the mantissa is even. -/
def Interval.ofMagnitude (m : Magnitude) : Interval :=
  let belowStep := if m.mantissa == Nat.pow 2 52 && m.exponent > Binary64.minExponent then 1 else 2
  let up := if m.exponent ≥ 2 then Nat.pow 2 (m.exponent - 2).toNat else 1
  let down := if m.exponent ≥ 2 then 1 else Nat.pow 2 (2 - m.exponent).toNat
  { low := (4 * m.mantissa - belowStep) * up
    value := 4 * m.mantissa * up
    high := (4 * m.mantissa + 2) * up
    denominator := down
    closed := m.mantissa % 2 == 0 }

/-- The numerator and denominator of `n / d · 10 ^ -k`. -/
def perPower (n d : Nat) (k : Int) : Nat × Nat :=
  if k ≥ 0 then (n, d * Nat.pow 10 k.toNat) else (n * Nat.pow 10 (-k).toNat, d)

/-- Whether `10 ^ k ≤ n / d`. -/
def reachesPower (n d : Nat) (k : Int) : Bool :=
  let (a, b) := perPower n d k
  b ≤ a

/-- The exponent of the leading decimal digit of a positive quotient. -/
def leadingExponent (n d : Nat) : Int :=
  let guess := ((n.log2 : Int) - d.log2) * 30103 / 100000
  if reachesPower n d (guess + 1) then guess + 1
  else if reachesPower n d guess then guess
  else guess - 1

/-- Whether `c · 10 ^ k` rounds to the number of the interval. -/
def Interval.holds (i : Interval) (c : Nat) (k : Int) : Bool :=
  let (scaled, d) :=
    if k ≥ 0 then (c * Nat.pow 10 k.toNat * i.denominator, 1)
    else (c * i.denominator, Nat.pow 10 (-k).toNat)
  if i.closed then i.low * d ≤ scaled && scaled ≤ i.high * d
  else i.low * d < scaled && scaled < i.high * d

/-- Whether the upper one of two neighbours is the nearer, where `twice` is twice the
distance from the lower one `lower` and `step` is the step from one to the other. -/
def Tie.prefersUpper (tie : Tie) (lower twice step : Nat) : Bool :=
  if twice = step then
    match tie with
    | .up => true
    | .toEven => lower % 2 == 1
  else decide (step < twice)

/-- The decimal on the grid of `10 ^ k` that rounds to the number of the interval:
of the two neighbours of the number the nearer, if any. -/
def Interval.onGrid? (i : Interval) (tie : Tie) (k : Int) : Option Nat :=
  let (a, b) := perPower i.value i.denominator k
  let lower := a / b
  if tie.prefersUpper lower (2 * (a % b)) b && i.holds (lower + 1) k then some (lower + 1)
  else if i.holds lower k && lower != 0 then some lower
  else if i.holds (lower + 1) k then some (lower + 1)
  else none

/-- The same decimal without zeros at the end of its digits. -/
def Digits.trimZeros (s : Digits) (fuel : Nat) : Digits :=
  match fuel with
  | 0 => s
  | fuel + 1 =>
      if s.digits != 0 && s.digits % 10 == 0 then
        Digits.trimZeros ⟨s.digits / 10, s.exponent + 1⟩ fuel
      else s

/-- Tries grids of `count`, `count + 1`, … digits and then gives the number itself
to seventeen digits. -/
def Interval.search (i : Interval) (tie : Tie) (lead : Int) : Nat -> Nat -> Digits
  | 0, count =>
      let k := lead - (count : Int)
      let (a, b) := perPower i.value i.denominator k
      ⟨Binary64.roundDivEven a b, k⟩
  | fuel + 1, count =>
      let k := lead - (count : Int)
      match i.onGrid? tie k with
      | some c => ⟨c, k⟩
      | none => i.search tie lead fuel (count + 1)

/-- The decimal with the fewest digits that rounds to the magnitude. -/
def shortest (tie : Tie) (m : Magnitude) : Digits :=
  if m.mantissa == 0 then ⟨0, 0⟩
  else
    let i := Interval.ofMagnitude m
    (i.search tie (leadingExponent i.value i.denominator) 17 0).trimZeros 18

end Decimal
end PoolHealth
