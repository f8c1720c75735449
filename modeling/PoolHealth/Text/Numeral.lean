import PoolHealth.Decimal.Binary64

/-!
# Numerals

Readers for whole numbers and for floating-point numbers.  A whole number is read
from left to right, and the first fault met on the way is the one reported.
-/

namespace PoolHealth
namespace Text

/-- Why a text is no numeral. -/
inductive NumeralError where
  | emptyInteger
  | invalidDigit
  | tooLarge
  | emptyFloat
  | invalidFloat
deriving DecidableEq, Repr

def NumeralError.message : NumeralError -> String
  | .emptyInteger => "cannot parse integer from empty string"
  | .invalidDigit => "invalid digit found in string"
  | .tooLarge => "number too large to fit in target type"
  | .emptyFloat => "cannot parse float from empty string"
  | .invalidFloat => "invalid float literal"

def digitValue? (c : Char) : Option Nat :=
  if c.isDigit then some (c.toNat - '0'.toNat) else none

/-- Reads digits onto `acc` as long as the number stays below `limit`. -/
def readDigits (limit : Nat) : Nat -> List Char -> Except NumeralError Nat
  | acc, [] => .ok acc
  | acc, c :: rest =>
      match digitValue? c with
      | none => .error .invalidDigit
      | some d =>
          if acc * 10 + d < limit then readDigits limit (acc * 10 + d) rest
          else .error .tooLarge

/-- Reads a whole number below `limit`, with an optional plus sign. -/
def readNatural (limit : Nat) (cs : List Char) : Except NumeralError Nat :=
  match cs with
  | [] => .error .emptyInteger
  | '+' :: c :: rest => readDigits limit 0 (c :: rest)
  | _ => readDigits limit 0 cs

def digitsValue (cs : List Char) : Nat :=
  cs.foldl (fun acc c => acc * 10 + (c.toNat - '0'.toNat)) 0

/-- A decimal number as written: its digits without the point, and the power of ten
that they are multiplied by. -/
structure DecimalNumeral where
  digits : Nat
  exponent : Int
deriving DecidableEq, Repr

/-- Reads an exponent part, an `e` with an optionally signed number; the empty text
stands for the exponent zero. -/
def readExponent (cs : List Char) : Option Int :=
  match cs with
  | [] => some 0
  | e :: rest =>
      if e != 'e' && e != 'E' then none
      else
        let (negative, digits) :=
          match rest with
          | '+' :: r => (false, r)
          | '-' :: r => (true, r)
          | r => (false, r)
        if digits.isEmpty || !digits.all Char.isDigit then none
        else
          let n : Int := digitsValue digits
          some (if negative then -n else n)

/-- Reads digits with an optional point, one side of which may be empty, and an
optional exponent. -/
def readDecimal (cs : List Char) : Option DecimalNumeral :=
  let whole := cs.takeWhile Char.isDigit
  let afterWhole := cs.dropWhile Char.isDigit
  let (fraction, rest) :=
    match afterWhole with
    | '.' :: r => (r.takeWhile Char.isDigit, r.dropWhile Char.isDigit)
    | r => ([], r)
  if whole.isEmpty && fraction.isEmpty then none
  else
    (readExponent rest).map fun e =>
      ⟨digitsValue (whole ++ fraction), e - fraction.length⟩

/-- The names of the numbers that have no digits, in lower case. -/
def namedFloat? (cs : List Char) : Option Float :=
  let name := String.ofList (cs.map Char.toLower)
  if name == "inf" || name == "infinity" then some (1.0 / 0.0)
  else if name == "nan" then some (0.0 / 0.0)
  else none

def readFloat (cs : List Char) : Except NumeralError Float :=
  if cs.isEmpty then .error .emptyFloat
  else
    let (negative, body) :=
      match cs with
      | '+' :: r => (false, r)
      | '-' :: r => (true, r)
      | r => (false, r)
    let magnitude :=
      match namedFloat? body with
      | some x => some x
      | none => (readDecimal body).map fun n => Binary64.ofDecimal n.digits n.exponent
    match magnitude with
    | none => .error .invalidFloat
    | some x => .ok (if negative then Binary64.negate x else x)

end Text
end PoolHealth
