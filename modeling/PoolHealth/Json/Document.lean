import PoolHealth.Json.Value
import PoolHealth.Json.Token

/-!
# JSON documents

A document is what a JSON text says before anything is made of it.  Numbers and
texts without a value are still in it, since parts that nobody asks for need none.
`Document.toJson?` gives the value of a whole document, if every part has one and
arrays and objects are not nested too deeply.
-/

namespace PoolHealth
namespace Json

/-- The syntax tree of a JSON text; the name of a member is absent if it has no
value. -/
inductive Document where
  | null
  | bool (b : Bool)
  | number (n : NumberValue)
  | text (s : Option String)
  | array (items : List Document)
  | object (members : List (Option String × Document))
deriving Inhabited

def maxDepth : Nat := 127

/-!
## From tokens
-/

mutual

def parseValue : Nat -> List Token -> Option (Document × List Token)
  | 0, _ => none
  | _ + 1, .null :: rest => some (.null, rest)
  | _ + 1, .bool b :: rest => some (.bool b, rest)
  | _ + 1, .number n :: rest => some (.number n, rest)
  | _ + 1, .text s :: rest => some (.text s, rest)
  | _ + 1, .openArray :: .closeArray :: rest => some (.array [], rest)
  | fuel + 1, .openArray :: rest =>
      match parseItems fuel rest with
      | some (items, rest) => some (.array items, rest)
      | none => none
  | _ + 1, .openObject :: .closeObject :: rest => some (.object [], rest)
  | fuel + 1, .openObject :: rest =>
      match parseMembers fuel rest with
      | some (members, rest) => some (.object members, rest)
      | none => none
  | _ + 1, _ => none

def parseItems : Nat -> List Token -> Option (List Document × List Token)
  | 0, _ => none
  | fuel + 1, tokens =>
      match parseValue fuel tokens with
      | some (item, .comma :: rest) =>
          match parseItems fuel rest with
          | some (items, rest) => some (item :: items, rest)
          | none => none
      | some (item, .closeArray :: rest) => some ([item], rest)
      | _ => none

def parseMembers : Nat -> List Token -> Option (List (Option String × Document) × List Token)
  | fuel + 1, .text key :: .colon :: rest =>
      match parseValue fuel rest with
      | some (value, .comma :: rest) =>
          match parseMembers fuel rest with
          | some (members, rest) => some ((key, value) :: members, rest)
          | none => none
      | some (value, .closeObject :: rest) => some ([(key, value)], rest)
      | _ => none
  | _, _ => none

end

/-- The document of a text, which holds one value and nothing behind it. -/
def Document.parse? (s : String) : Option Document :=
  match tokens s.toList with
  | none => none
  | some ts =>
      match parseValue (ts.length + 1) ts with
      | some (d, []) => some d
      | _ => none

/-!
## To values
-/

mutual

/-- The value of a document that is nested at most `depth` levels; of members with
the same name the last one counts. -/
def Document.value? : Document -> Nat -> Option Json
  | .null, _ => some .null
  | .bool b, _ => some (.bool b)
  | .number (.integer n), _ => some (.integer n)
  | .number (.real x), _ => some (.real x)
  | .number .tooLarge, _ => none
  | .text (some s), _ => some (.text s)
  | .text none, _ => none
  | .array _, 0 => none
  | .array items, depth + 1 => (valueItems? items depth).map .array
  | .object _, 0 => none
  | .object members, depth + 1 => (valueMembers? members depth []).map .object

def valueItems? : List Document -> Nat -> Option (List Json)
  | [], _ => some []
  | item :: rest, depth =>
      match item.value? depth with
      | some v => (valueItems? rest depth).map (v :: ·)
      | none => none

/-- The values of all members, added to those already there. -/
def valueMembers? : List (Option String × Document) -> Nat -> List (String × Json) ->
    Option (List (String × Json))
  | [], _, acc => some acc
  | (none, _) :: _, _, _ => none
  | (some key, value) :: rest, depth, acc =>
      match value.value? depth with
      | some v => valueMembers? rest depth (Keyed.set key v acc)
      | none => none

end

def parse? (s : String) : Option Json :=
  match Document.parse? s with
  | some d => d.value? maxDepth
  | none => none

end Json
end PoolHealth
