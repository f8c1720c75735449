import PoolHealth.Text.Invisible

/-!
# Quoted texts

A quoted text stands between double quotes.  Quotes and backslashes inside are
escaped, control characters have short names or are shown by number.
-/

namespace PoolHealth
namespace Text

def hexDigits (n : Nat) : List Char := Nat.toDigits 16 n

/-- A character by its number, as in `\u{7f}`. -/
def numberedChar (c : Char) : List Char :=
  '\\' :: 'u' :: '\x7b' :: hexDigits c.toNat ++ ['\x7d']

def quoteChar (c : Char) : List Char :=
  if c = '"' then ['\\', '"']
  else if c = '\\' then ['\\', '\\']
  else if c = '\n' then ['\\', 'n']
  else if c = '\t' then ['\\', 't']
  else if c = '\r' then ['\\', 'r']
  else if c = '\x00' then ['\\', '0']
  else if isInvisible c then numberedChar c
  else [c]

def quote (s : String) : String :=
  String.ofList ('"' :: s.toList.flatMap quoteChar ++ ['"'])

end Text
end PoolHealth
