/-!
# Binary floating point, exactly

A finite 64-bit floating-point number is `mantissa · 2 ^ exponent` with a mantissa
below `2 ^ 53`.  This module takes a number apart into these two, and rounds a
quotient of natural numbers to the nearest such number, ties to the even mantissa.
-/

namespace PoolHealth
namespace Binary64

/-- The magnitude of a finite number, `mantissa · 2 ^ exponent`. -/
structure Magnitude where
  mantissa : Nat
  exponent : Int
deriving DecidableEq, Repr

inductive Form where
  | nan
  | infinite (negative : Bool)
  | finite (negative : Bool) (magnitude : Magnitude)
deriving DecidableEq, Repr

/-- The least exponent; smaller numbers have fewer mantissa bits. -/
def minExponent : Int := -1074

def maxExponent : Int := 971

/-- Reads sign, exponent and mantissa off the bits. -/
def form (x : Float) : Form :=
  let bits : Nat := x.toBits.toNat
  let negative := bits / Nat.pow 2 63 == 1
  let field : Nat := bits / Nat.pow 2 52 % Nat.pow 2 11
  let fraction : Nat := bits % Nat.pow 2 52
  if field == 2047 then
    if fraction == 0 then .infinite negative else .nan
  else if field == 0 then
    .finite negative ⟨fraction, minExponent⟩
  else
    .finite negative ⟨Nat.pow 2 52 + fraction, (field : Int) - 1075⟩

/-- `n / d` as a fraction of natural numbers, scaled down by `2 ^ e`. -/
def scaledDown (n d : Nat) (e : Int) : Nat × Nat :=
  if e ≥ 0 then (n, d * Nat.pow 2 e.toNat) else (n * Nat.pow 2 (-e).toNat, d)

/-- The quotient rounded to the nearest natural number, ties to the even one. -/
def roundDivEven (n d : Nat) : Nat :=
  let q := n / d
  let twice := 2 * (n % d)
  if twice < d then q
  else if twice > d then q + 1
  else if q % 2 == 0 then q else q + 1

/-- The exponent at which the quotient has a 53-bit mantissa, or the least one. -/
def exponentFor (n d : Nat) : Int :=
  let guess : Int := (n.log2 : Int) - d.log2 - 53
  let (a, b) := scaledDown n d guess
  let e := if a / b ≥ Nat.pow 2 53 then guess + 1 else guess
  max e minExponent

/-- The bits of the magnitude `m · 2 ^ e`, where `m` may have become `2 ^ 53`. -/
def packMagnitude (m : Nat) (e : Int) : Nat :=
  let (m, e) := if m == Nat.pow 2 53 then (Nat.pow 2 52, e + 1) else (m, e)
  if m < Nat.pow 2 52 then m
  else if e > maxExponent then 2047 * Nat.pow 2 52
  else (e + 1075).toNat * Nat.pow 2 52 + (m - Nat.pow 2 52)

/-- The number nearest to `n / d`, ties to the even mantissa; infinite past the
largest finite number. -/
def ofRatio (n d : Nat) : Float :=
  if n == 0 then 0.0
  else
    let e := exponentFor n d
    let (a, b) := scaledDown n d e
    Float.ofBits (packMagnitude (roundDivEven a b) e).toUInt64

/-- The number nearest to `digits · 10 ^ exponent`, ties to the even mantissa. -/
def ofDecimal (digits : Nat) (exponent : Int) : Float :=
  let size : Int := (Nat.toDigits 10 digits).length
  if digits == 0 || size + exponent < -330 then 0.0
  else if size + exponent > 310 then Float.ofBits 0x7ff0000000000000
  else if exponent ≥ 0 then ofRatio (digits * Nat.pow 10 exponent.toNat) 1
  else ofRatio digits (Nat.pow 10 (-exponent).toNat)

/-- The natural number nearest to a word, as a floating-point number. -/
def ofWord (n : UInt64) : Float := n.toFloat

def negate (x : Float) : Float := -x

end Binary64
end PoolHealth
