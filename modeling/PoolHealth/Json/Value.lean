import PoolHealth.Keyed

/-!
# JSON values

A JSON value with whole numbers and floating-point numbers kept apart, and the
few accessors that the rest of the library needs.  The members of an object stand
in the order in which they are written.
-/

namespace PoolHealth

inductive Json where
  | null
  | bool (b : Bool)
  | integer (n : Int)
  | real (x : Float)
  | text (s : String)
  | array (items : List Json)
  | object (members : List (String × Json))
deriving Inhabited

namespace Json

def nat (n : Nat) : Json := .integer n

/-- A value that may be absent; `null` stands for none. -/
def ofOption {α : Type} (f : α -> Json) : Option α -> Json
  | none => .null
  | some a => f a

def ofList {α : Type} (f : α -> Json) (xs : List α) : Json := .array (xs.map f)

/-- The member of an object, if the value is an object that has it. -/
def member? (key : String) : Json -> Option Json
  | .object members => members.lookup key
  | _ => none

/-- The number of a value, whole or not. -/
def asFloat? : Json -> Option Float
  | .integer n =>
      some (if n < 0 then -(n.natAbs.toUInt64.toFloat) else n.natAbs.toUInt64.toFloat)
  | .real x => some x
  | _ => none

end Json
end PoolHealth
