import PoolHealth.Errors
import PoolHealth.Text.Blank
import PoolHealth.Text.Numeral

/-!
# Environment variables

An environment maps names to values.  A value is a text or a string of bytes that is
no text; readers treat the latter like a variable that is not set.  A reader answers
`none` for a variable that is not set, and an error that names the variable for a
value that it cannot read.
-/

namespace PoolHealth

inductive Env.Value where
  | text (s : String)
  /-- Bytes that are no text. -/
  | bytes (b : List UInt8)
deriving DecidableEq

structure Env where
  vars : List (String × Env.Value)

namespace Env

/-- The value with these bytes: a text if the bytes encode one. -/
def Value.ofBytes (b : List UInt8) : Value :=
  match String.fromUTF8? ⟨b.toArray⟩ with
  | some s => text s
  | none => bytes b

/-- The character that ends a text in memory, so that no text may hold it. -/
def terminator : Char := '\x00'

/-- Whether a value can be stored: it is stored up to the first terminator. -/
def Value.isStorable : Value -> Bool
  | text s => !s.contains terminator
  | bytes b => !b.contains 0

/-- Whether a variable can have that name: a name is stored in front of an equals
sign. -/
def isName (name : String) : Bool :=
  !name.isEmpty && !name.contains '=' && !name.contains terminator

/-- The environment with these variables, if they can be stored. -/
def ofVars? (vars : List (String × Value)) : Option Env :=
  if vars.all fun (name, v) => isName name && v.isStorable then some ⟨vars⟩ else none

def value? (env : Env) (key : String) : Option Value := env.vars.lookup key

/-- The text of a variable, if it is set to one. -/
def text? (env : Env) (key : String) : Option String :=
  match env.value? key with
  | some (.text s) => some s
  | _ => none

/-- The text of a variable that holds more than white space. -/
def nonBlank? (env : Env) (key : String) : Option String :=
  (env.text? key).filter fun s => !Text.isBlankText s

/-- The truth value that a word stands for, in any letter case. -/
def truthOf? (s : String) : Option Bool :=
  let word := String.ofList (s.toList.map Char.toLower)
  if ["true", "1", "yes", "on"].contains word then some true
  else if ["false", "0", "no", "off"].contains word then some false
  else none

def bool (env : Env) (key : String) : Except ConfigError (Option Bool) :=
  match env.text? key with
  | none => .ok none
  | some s =>
      match truthOf? s with
      | some b => .ok (some b)
      | none =>
          .error (.invalidVariable key
            ("invalid boolean value '" ++ s ++ "', expected true/false/1/0/yes/no/on/off"))

/-- Reads a value that may stand between white space; `kind` names its type in the
error. -/
def parsed {α : Type} (env : Env) (key kind : String)
    (read : List Char -> Except Text.NumeralError α) : Except ConfigError (Option α) :=
  match env.text? key with
  | none => .ok none
  | some s =>
      match read (Text.trimChars s.toList) with
      | .ok a => .ok (some a)
      | .error e =>
          .error (.invalidVariable key
            ("invalid " ++ kind ++ " value '" ++ s ++ "': " ++ e.message))

/-- Reads a word of 64 bits from digits. -/
def readWord64 (cs : List Char) : Except Text.NumeralError UInt64 :=
  (Text.readNatural UInt64.size cs).map UInt64.ofNat

/-- Reads a word of 32 bits from digits. -/
def readWord32 (cs : List Char) : Except Text.NumeralError UInt32 :=
  (Text.readNatural UInt32.size cs).map UInt32.ofNat

/-- Reads a 64-bit number. -/
def word64 (env : Env) (key : String) : Except ConfigError (Option UInt64) :=
  env.parsed key "u64" readWord64

/-- Reads a 32-bit number. -/
def word32 (env : Env) (key : String) : Except ConfigError (Option UInt32) :=
  env.parsed key "u32" readWord32

def size (env : Env) (key : String) : Except ConfigError (Option UInt64) :=
  env.parsed key "usize" readWord64

def float (env : Env) (key : String) : Except ConfigError (Option Float) :=
  env.parsed key "f64" Text.readFloat

/-- The form of a name inside a variable: letters in upper case, digits as they are,
and an underscore for every other character. -/
def normalize (name : String) : String :=
  String.ofList (name.toList.map fun c => if c.isAlphanum then c.toUpper else '_')

/-- The variable for a field of something that has a name of its own. -/
def scopedKey (base scope field : String) : String :=
  base ++ "_" ++ normalize scope ++ "_" ++ field

/-!
## Overrides
-/

/-- A variable that overrides one setting of a configuration: the field that its name
ends in, and a reader that tells how the configuration changes. -/
structure Override (α : Type) where
  field : String
  read : Env -> String -> Except ConfigError (Option (α -> α))

namespace Override

variable {α : Type}

/-- A setting given as a 64-bit number. -/
def ofWord64 (field : String) (set : UInt64 -> α -> α) : Override α :=
  ⟨field, fun env key => (env.word64 key).map (·.map set)⟩

/-- A setting given as a 32-bit number. -/
def ofWord32 (field : String) (set : UInt32 -> α -> α) : Override α :=
  ⟨field, fun env key => (env.word32 key).map (·.map set)⟩

def ofSize (field : String) (set : UInt64 -> α -> α) : Override α :=
  ⟨field, fun env key => (env.size key).map (·.map set)⟩

def ofFloat (field : String) (set : Float -> α -> α) : Override α :=
  ⟨field, fun env key => (env.float key).map (·.map set)⟩

def ofBool (field : String) (set : Bool -> α -> α) : Override α :=
  ⟨field, fun env key => (env.bool key).map (·.map set)⟩

/-- A setting given as a text that is not blank. -/
def ofText (field : String) (set : String -> α -> α) : Override α :=
  ⟨field, fun env key => .ok ((env.nonBlank? key).map set)⟩

/-- The configuration after the override, if its variable is set. -/
def apply (env : Env) (key : String) (o : Override α) (config : α) : Except ConfigError α :=
  (o.read env key).map fun
    | some change => change config
    | none => config

end Override

/-- The configuration after all overrides, in their order.  The first variable that
cannot be read is the error. -/
def applyAll {α : Type} (env : Env) (key : String -> String) (config : α) :
    List (Override α) -> Except ConfigError α
  | [] => .ok config
  | o :: rest =>
      match o.apply env (key o.field) config with
      | .ok config => applyAll env key config rest
      | .error e => .error e

end Env
end PoolHealth
