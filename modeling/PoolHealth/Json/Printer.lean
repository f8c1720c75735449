import PoolHealth.Json.Value
import PoolHealth.Decimal.Layout

/-!
# Writing JSON

Values are written without white space.  Quotes, backslashes and control characters
are escaped; a floating-point number that is not finite is written as `null`.
-/

namespace PoolHealth
namespace Json

def hexDigit (n : Nat) : Char := Nat.digitChar n

def escapeChar (c : Char) : List Char :=
  if c = '"' then ['\\', '"']
  else if c = '\\' then ['\\', '\\']
  else if c = '\x08' then ['\\', 'b']
  else if c = '\x0c' then ['\\', 'f']
  else if c = '\n' then ['\\', 'n']
  else if c = '\r' then ['\\', 'r']
  else if c = '\t' then ['\\', 't']
  else if c.toNat < 0x20 then
    ['\\', 'u', '0', '0', hexDigit (c.toNat / 16), hexDigit (c.toNat % 16)]
  else [c]

def writeText (s : String) : List Char :=
  '"' :: s.toList.flatMap escapeChar ++ ['"']

def writeInteger (n : Int) : List Char :=
  if n < 0 then '-' :: Nat.toDigits 10 n.natAbs else Nat.toDigits 10 n.natAbs

def writeReal (x : Float) : List Char :=
  if x.isFinite then (Decimal.Layout.json.text x).toList else "null".toList

mutual

def write : Json -> List Char
  | .null => "null".toList
  | .bool true => "true".toList
  | .bool false => "false".toList
  | .integer n => writeInteger n
  | .real x => writeReal x
  | .text s => writeText s
  | .array items => '[' :: writeItems true items ++ [']']
  | .object members => '\x7b' :: writeMembers true members ++ ['\x7d']

/-- Items separated by commas, with none before the first. -/
def writeItems (first : Bool) : List Json -> List Char
  | [] => []
  | item :: rest => (if first then [] else [',']) ++ write item ++ writeItems false rest

/-- Members separated by commas, with none before the first. -/
def writeMembers (first : Bool) : List (String × Json) -> List Char
  | [] => []
  | (key, value) :: rest =>
      (if first then [] else [',']) ++ writeText key ++ ':' :: write value
        ++ writeMembers false rest

end

def render (j : Json) : String := String.ofList j.write

end Json
end PoolHealth
