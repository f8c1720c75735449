import PoolHealth.Text.Numeral

/-!
# JSON tokens

A JSON text is a sequence of tokens with white space between them.  A number token
already carries its value.  A text whose escapes leave half of a surrogate pair, and
a number past the largest floating-point number, are tokens without a value: they
are well formed and matter only where their value is asked for.
-/

namespace PoolHealth
namespace Json

inductive NumberValue where
  | integer (n : Int)
  | real (x : Float)
  | tooLarge

/-- A token; the value of a text is absent if it holds half of a surrogate pair. -/
inductive Token where
  | openObject
  | closeObject
  | openArray
  | closeArray
  | colon
  | comma
  | null
  | bool (b : Bool)
  | number (n : NumberValue)
  | text (s : Option String)

def isSpace (c : Char) : Bool := c = ' ' || c = '\n' || c = '\t' || c = '\r'

/-!
## Numbers

A number is read into a word of 64 bits and a power of ten.  Digits that no longer
fit into the word are dropped, those before the point raise the power.  The value is
the word multiplied or divided by the power in floating point.
-/

def wordLimit : Nat := UInt64.size

/-- Takes digits into the word as long as it fits; gives the word, the number of
digits taken and the digits left over. -/
def takeDigits : Nat -> Nat -> List Char -> Nat × Nat × List Char
  | word, taken, [] => (word, taken, [])
  | word, taken, c :: rest =>
      let next := word * 10 + (c.toNat - '0'.toNat)
      if next < wordLimit then takeDigits next (taken + 1) rest
      else (word, taken, c :: rest)

def powerOfTen (k : Nat) : Float := Binary64.ofDecimal 1 k

/-- Divides by powers of ten no greater than `10 ^ 308`, one after the other. -/
def divideByPower (x : Float) (k : Nat) : Nat -> Float
  | 0 => x
  | fuel + 1 =>
      if k ≤ 308 then x / powerOfTen k
      else if x == 0.0 then x
      else divideByPower (x / powerOfTen 308) (k - 308) fuel

/-- The word multiplied by the power of ten, or nothing if that is infinite. -/
def scaleWord (word : Nat) (exponent : Int) : Option Float :=
  let x := word.toUInt64.toFloat
  if exponent < 0 then some (divideByPower x exponent.natAbs 4)
  else if exponent.natAbs ≤ 308 then
    let y := x * powerOfTen exponent.natAbs
    if y.isInf then none else some y
  else if x == 0.0 then some x
  else none

structure NumberParts where
  negative : Bool
  whole : List Char
  fraction : Option (List Char)
  /-- Sign and digits of the exponent. -/
  power : Option (Bool × List Char)

/-- The value of a number with a fraction or an exponent, or of one that does not
fit into a word. -/
def NumberParts.real? (p : NumberParts) (word : Nat) (dropped : Nat) : Option Float :=
  let (word, taken) :=
    match p.fraction with
    | none => (word, 0)
    | some ds =>
        let (w, t, _) := takeDigits word 0 ds
        (w, t)
  let exponent : Int := (dropped : Int) - taken
  let magnitude :=
    match p.power with
    | none => scaleWord word exponent
    | some (negativePower, ds) =>
        let e := Text.digitsValue ds
        if e ≥ Nat.pow 2 31 then
          if word != 0 && !negativePower then none else some 0.0
        else scaleWord word (if negativePower then exponent - e else exponent + e)
  magnitude.map fun x => if p.negative then -x else x

/-- The value of a number.  A whole number that fits into 64 bits stays whole, except
that minus zero is a floating-point number. -/
def NumberParts.value (p : NumberParts) : NumberValue :=
  let (word, _, left) := takeDigits 0 0 p.whole
  let whole := p.fraction.isNone && p.power.isNone && left.isEmpty
  if whole && !p.negative then .integer word
  else if whole && word != 0 && word ≤ Nat.pow 2 63 then .integer (-(word : Int))
  else
    match p.real? word left.length with
    | some x => .real x
    | none => .tooLarge

def spanDigits (cs : List Char) : List Char × List Char :=
  (cs.takeWhile Char.isDigit, cs.dropWhile Char.isDigit)

/-- The fraction of a number: a point must be followed by a digit. -/
def scanFraction (cs : List Char) : Option (Option (List Char) × List Char) :=
  match cs with
  | '.' :: r =>
      let (ds, rest) := spanDigits r
      if ds.isEmpty then none else some (some ds, rest)
  | _ => some (none, cs)

/-- The exponent of a number: an `e` must be followed by a digit or a signed digit. -/
def scanPower (cs : List Char) : Option (Option (Bool × List Char) × List Char) :=
  match cs with
  | c :: r =>
      if c = 'e' || c = 'E' then
        let (negative, r) :=
          match r with
          | '+' :: r => (false, r)
          | '-' :: r => (true, r)
          | r => (false, r)
        let (ds, rest) := spanDigits r
        if ds.isEmpty then none else some (some (negative, ds), rest)
      else some (none, cs)
  | [] => some (none, [])

/-- The digits before the point: a zero stands alone. -/
def scanWhole (cs : List Char) : Option (List Char × List Char) :=
  match cs with
  | '0' :: rest => some (['0'], rest)
  | _ =>
      let (ds, rest) := spanDigits cs
      if ds.isEmpty then none else some (ds, rest)

def scanNumber (cs : List Char) : Option (NumberValue × List Char) :=
  let (negative, cs) :=
    match cs with
    | '-' :: r => (true, r)
    | r => (false, r)
  match scanWhole cs with
  | none => none
  | some (whole, cs) =>
      match scanFraction cs with
      | none => none
      | some (fraction, cs) =>
          match scanPower cs with
          | none => none
          | some (power, rest) => some (NumberParts.value ⟨negative, whole, fraction, power⟩, rest)

/-!
## Texts
-/

def hexValue? (c : Char) : Option Nat :=
  if '0' ≤ c && c ≤ '9' then some (c.toNat - '0'.toNat)
  else if 'a' ≤ c && c ≤ 'f' then some (c.toNat - 'a'.toNat + 10)
  else if 'A' ≤ c && c ≤ 'F' then some (c.toNat - 'A'.toNat + 10)
  else none

def hexValue4? (a b c d : Char) : Option Nat :=
  match hexValue? a, hexValue? b, hexValue? c, hexValue? d with
  | some a, some b, some c, some d => some (((a * 16 + b) * 16 + c) * 16 + d)
  | _, _, _, _ => none

def shortEscape? (c : Char) : Option Char :=
  if c = '"' then some '"'
  else if c = '\\' then some '\\'
  else if c = '/' then some '/'
  else if c = 'b' then some '\x08'
  else if c = 'f' then some '\x0c'
  else if c = 'n' then some '\n'
  else if c = 'r' then some '\r'
  else if c = 't' then some '\t'
  else none

def isHighSurrogate (n : Nat) : Bool := 0xD800 ≤ n && n < 0xDC00

def isLowSurrogate (n : Nat) : Bool := 0xDC00 ≤ n && n < 0xE000

def pairedChar (high low : Nat) : Char :=
  Char.ofNat (0x10000 + (high - 0xD800) * 0x400 + (low - 0xDC00))

/-- A piece of a text: a character, or a half of a surrogate pair from an escape. -/
inductive Piece where
  | char (c : Char)
  | half (n : Nat)

def Piece.ofEscape (n : Nat) : Piece :=
  if isHighSurrogate n || isLowSurrogate n then .half n else .char (Char.ofNat n)

/-- The characters of a text, or nothing if a half of a pair stands alone. -/
def joinPieces : List Piece -> Option (List Char)
  | [] => some []
  | .char c :: rest => (joinPieces rest).map (c :: ·)
  | .half high :: .half low :: rest =>
      if isHighSurrogate high && isLowSurrogate low then
        (joinPieces rest).map (pairedChar high low :: ·)
      else none
  | .half _ :: _ => none

def prependPiece (p : Piece) : Option (List Piece × List Char) -> Option (List Piece × List Char)
  | some (ps, rest) => some (p :: ps, rest)
  | none => none

/-- The pieces of a text up to its closing quote, whose opening quote has been read. -/
def scanText : List Char -> Option (List Piece × List Char)
  | [] => none
  | '"' :: rest => some ([], rest)
  | '\\' :: 'u' :: a :: b :: c :: d :: rest =>
      match hexValue4? a b c d with
      | none => none
      | some n => prependPiece (.ofEscape n) (scanText rest)
  | '\\' :: c :: rest =>
      match shortEscape? c with
      | none => none
      | some e => prependPiece (.char e) (scanText rest)
  | c :: rest =>
      if c = '\\' || c.toNat < 0x20 then none
      else prependPiece (.char c) (scanText rest)

def textValue (ps : List Piece) : Option String := (joinPieces ps).map String.ofList

/-!
## The sequence of tokens
-/

/-- The token at the front of a text without leading white space. -/
def scanToken (cs : List Char) : Option (Token × List Char) :=
  match cs with
  | '\x7b' :: rest => some (.openObject, rest)
  | '\x7d' :: rest => some (.closeObject, rest)
  | '[' :: rest => some (.openArray, rest)
  | ']' :: rest => some (.closeArray, rest)
  | ':' :: rest => some (.colon, rest)
  | ',' :: rest => some (.comma, rest)
  | '"' :: rest => (scanText rest).map fun (ps, rest) => (.text (textValue ps), rest)
  | 'n' :: 'u' :: 'l' :: 'l' :: rest => some (.null, rest)
  | 't' :: 'r' :: 'u' :: 'e' :: rest => some (.bool true, rest)
  | 'f' :: 'a' :: 'l' :: 's' :: 'e' :: rest => some (.bool false, rest)
  | _ => (scanNumber cs).map fun (n, rest) => (.number n, rest)

/-- The tokens of a text that has at most `fuel` of them. -/
def scanTokens : Nat -> List Char -> Option (List Token)
  | fuel, cs =>
      match cs.dropWhile isSpace with
      | [] => some []
      | c :: rest =>
          match fuel with
          | 0 => none
          | fuel + 1 =>
              match scanToken (c :: rest) with
              | none => none
              | some (token, rest) => (scanTokens fuel rest).map (token :: ·)

/-- The tokens of a text, or nothing if some part of it is no token. -/
def tokens (cs : List Char) : Option (List Token) := scanTokens cs.length cs

end Json
end PoolHealth
