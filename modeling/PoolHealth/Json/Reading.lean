import PoolHealth.Json.Document
import PoolHealth.Time.Duration

/-!
# Reading domain values from documents

A record is given as an object or as an array of exactly its fields in their order.
Members of an object that the record does not have are skipped whatever they hold; a
field that occurs twice is a fault.  Every reader answers `none` on a fault.
-/

namespace PoolHealth
namespace Json
namespace Document

/-- A whole number below `limit`. -/
def natBelow? (limit : Nat) : Document -> Option Nat
  | .number (.integer n) => if 0 ≤ n ∧ n.toNat < limit then some n.toNat else none
  | _ => none

/-- A word of 64 bits. -/
def word64? (d : Document) : Option UInt64 := (d.natBelow? UInt64.size).map UInt64.ofNat

/-- A word of 32 bits. -/
def word32? (d : Document) : Option UInt32 := (d.natBelow? UInt32.size).map UInt32.ofNat

/-- A natural number that fits into 64 bits. -/
def count? (d : Document) : Option Nat := d.natBelow? UInt64.size

/-- A floating-point number, which may be written as a whole one. -/
def float? : Document -> Option Float
  | .number (.integer n) => (Json.integer n).asFloat?
  | .number (.real x) => some x
  | _ => none

def string? : Document -> Option String
  | .text s => s
  | _ => none

def bool? : Document -> Option Bool
  | .bool b => some b
  | _ => none

/-- The items of an array, each read in the same way. -/
def list? {α : Type} (item : Document -> Option α) : Document -> Option (List α)
  | .array items => items.mapM item
  | _ => none

/-- A value that `null` leaves out. -/
def optional? {α : Type} (read : Document -> Option α) : Document -> Option (Option α)
  | .null => some none
  | d => (read d).map some

/-- The entries of an object by name; of entries with the same name the last one
counts. -/
def entries? {α : Type} (read : Document -> Option α) : Document -> Option (List (String × α))
  | .object members =>
      members.foldlM (fun acc (key, value) =>
        match key, read value with
        | some k, some v => some (Keyed.set k v acc)
        | _, _ => none) []
  | _ => none

/-- One of several names, as a text or as an object with that name and `null`. -/
def oneOf? {α : Type} (names : List (String × α)) : Document -> Option α
  | .text (some s) => names.lookup s
  | .object [(some s, .null)] => names.lookup s
  | _ => none

/-- The slot of each field of a record in turn; empty where an object lacks it. -/
abbrev Slots := List (Option Document)

/-- Puts the value of a member into the slot of its name.  A name that is not a
field is skipped unless the record is closed; a slot is filled only once. -/
def fillSlot (closed : Bool) (key : String) (value : Document) :
    List String -> Slots -> Option Slots
  | name :: names, slot :: slots =>
      if name = key then
        match slot with
        | none => some (some value :: slots)
        | some _ => none
      else (fillSlot closed key value names slots).map (slot :: ·)
  | _, slots => if closed then none else some slots

def fillSlots (closed : Bool) (names : List String) :
    List (Option String × Document) -> Slots -> Option Slots
  | [], slots => some slots
  | (none, _) :: _, _ => none
  | (some key, value) :: rest, slots =>
      match fillSlot closed key value names slots with
      | some slots => fillSlots closed names rest slots
      | none => none

/-- The fields of a record, from an object or from an array. -/
def slots? (closed : Bool) (names : List String) : Document -> Option Slots
  | .object members => fillSlots closed names members (names.map fun _ => none)
  | .array items => if items.length = names.length then some (items.map some) else none
  | _ => none

def required? {α : Type} (read : Document -> Option α) : Option Document -> Option α
  | some d => read d
  | none => none

/-- A field that may be left out or `null`. -/
def absentOr? {α : Type} (read : Document -> Option α) : Option Document -> Option (Option α)
  | none => some none
  | some d => d.optional? read

/-- A duration as seconds and nanoseconds, with no other members. -/
def duration? (d : Document) : Option Duration :=
  match d.slots? true ["secs", "nanos"] with
  | some [secs, nanos] => do
      let secs ← required? count? secs
      let nanos ← required? (natBelow? UInt32.size) nanos
      Duration.ofParts? secs nanos
  | _ => none

end Document

def ofDuration (d : Duration) : Json :=
  .object [("secs", nat d.secs), ("nanos", nat d.subsecNanos)]

end Json
end PoolHealth
