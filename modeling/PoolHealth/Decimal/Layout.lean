import PoolHealth.Decimal.Shortest

/-!
# Writing floating-point numbers

A `Layout` fixes how shortest digits become text: which numbers are written
positionally and which with an exponent, and whether a whole number keeps a
fraction.  `fixedOne` writes a number with exactly one decimal place.
-/

namespace PoolHealth
namespace Decimal

structure Layout where
  /-- The exponents of the leading digit that are written positionally, as a least
  one and one past the greatest; all of them if absent. -/
  positional : Option (Int × Int)
  /-- Whether a whole number is followed by `.0`. -/
  keepsFraction : Bool
  /-- Whether a positive exponent has a sign. -/
  signsExponent : Bool
  tie : Tie
  nan : String
  infinity : String

def Layout.json : Layout where
  positional := some (-5, 16)
  keepsFraction := true
  signsExponent := true
  tie := .toEven
  nan := "NaN"
  infinity := "inf"

/-- The layout of numbers in messages: always positional, whole numbers bare. -/
def Layout.plain : Layout where
  positional := none
  keepsFraction := false
  signsExponent := false
  tie := .up
  nan := "NaN"
  infinity := "inf"

def Layout.diagnostic : Layout where
  positional := some (-4, 16)
  keepsFraction := true
  signsExponent := false
  tie := .up
  nan := "NaN"
  infinity := "inf"

def digitsOf (n : Nat) : List Char := Nat.toDigits 10 n

/-- Digits with the point after `point` of them; zeros fill up on either side. -/
def positionalText (digits : List Char) (point : Int) (keepsFraction : Bool) : String :=
  let n := digits.length
  if point ≤ 0 then
    "0." ++ String.ofList (List.replicate (-point).toNat '0' ++ digits)
  else if point.toNat ≥ n then
    String.ofList (digits ++ List.replicate (point.toNat - n) '0')
      ++ (if keepsFraction then ".0" else "")
  else
    String.ofList (digits.take point.toNat) ++ "." ++ String.ofList (digits.drop point.toNat)

/-- One digit before the point, the others behind it, and a power of ten. -/
def exponentText (digits : List Char) (exponent : Int) (signs : Bool) : String :=
  let mantissa :=
    match digits with
    | [] => ""
    | [d] => String.ofList [d]
    | d :: rest => String.ofList (d :: '.' :: rest)
  let sign := if exponent < 0 then "-" else if signs then "+" else ""
  mantissa ++ "e" ++ sign ++ toString exponent.natAbs

def Layout.magnitudeText (l : Layout) (m : Binary64.Magnitude) : String :=
  if m.mantissa == 0 then (if l.keepsFraction then "0.0" else "0")
  else
    let s := shortest l.tie m
    let digits := digitsOf s.digits
    let lead : Int := s.exponent + digits.length - 1
    let isPositional :=
      match l.positional with
      | none => true
      | some (least, past) => decide (least ≤ lead) && decide (lead < past)
    if isPositional then positionalText digits (lead + 1) l.keepsFraction
    else exponentText digits lead l.signsExponent

def Layout.text (l : Layout) (x : Float) : String :=
  match Binary64.form x with
  | .nan => l.nan
  | .infinite negative => (if negative then "-" else "") ++ l.infinity
  | .finite negative m => (if negative then "-" else "") ++ l.magnitudeText m

/-- The exact value of a number rounded to one decimal place, ties to even. -/
def fixedOne (x : Float) : String :=
  match Binary64.form x with
  | .nan => "NaN"
  | .infinite negative => (if negative then "-" else "") ++ "inf"
  | .finite negative m =>
      let (a, b) := Binary64.scaledDown (10 * m.mantissa) 1 (-m.exponent)
      let tenths := Binary64.roundDivEven a b
      (if negative then "-" else "") ++ toString (tenths / 10) ++ "." ++ toString (tenths % 10)

end Decimal
end PoolHealth
