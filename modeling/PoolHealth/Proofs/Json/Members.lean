import PoolHealth.Json.Reading
import PoolHealth.Proofs.Json.Rendering
import Mathlib.Data.List.Perm.Basic

/-!
# Records from members in any order

The members of an object fill the slots of a record's fields.  Two members may be put
in in either order, also if both have the same name, so that the slots do not depend on
the order of the members.  A member of another name leaves the slots as they are.  What
is left is an object that has just the fields, in their order, where each member meets
an empty slot.

Numbers, texts and durations are read from what they are written as.
-/

namespace PoolHealth

theorem Duration.parts_lt (d : Duration) :
    d.secs < UInt64.size ∧ d.subsecNanos < UInt32.size := by
  have hle := d.nanos_le
  simp only [secs, subsecNanos, nanosPerSec, UInt64.size, UInt32.size]
  omega

namespace Json
namespace Document

/-!
## The order of members
-/

section Order

variable {closed : Bool} {names : List String} {name key : String} {value : Document}
  {slots : Slots}

theorem fillSlot_empty :
    fillSlot closed name value (name :: names) (none :: slots) = some (some value :: slots) := by
  simp [fillSlot]

theorem fillSlot_full {d : Document} :
    fillSlot closed name value (name :: names) (some d :: slots) = none := by
  simp [fillSlot]

theorem fillSlot_other {slot : Option Document} (h : name ≠ key) :
    fillSlot closed key value (name :: names) (slot :: slots) =
      (fillSlot closed key value names slots).map (slot :: ·) := by
  simp [fillSlot, h]

theorem fillSlot_comm_of_ne {first : Document} {slot : Option Document} (h : name ≠ key) :
    (fillSlot closed name first (name :: names) (slot :: slots)).bind
        (fillSlot closed key value (name :: names)) =
      (fillSlot closed key value (name :: names) (slot :: slots)).bind
        (fillSlot closed name first (name :: names)) := by
  rw [fillSlot_other h, Option.bind_map]
  cases slot with
  | none =>
      rw [fillSlot_empty, Option.bind_some, fillSlot_other h]
      cases fillSlot closed key value names slots with
      | none =>
          rfl
      | some filled =>
          exact fillSlot_empty.symm
  | some d =>
      rw [fillSlot_full]
      cases fillSlot closed key value names slots with
      | none =>
          rfl
      | some filled =>
          exact fillSlot_full.symm

theorem fillSlot_comm (k k' : String) (v v' : Document) (slots : Slots) :
    (fillSlot closed k v names slots).bind (fillSlot closed k' v' names) =
      (fillSlot closed k' v' names slots).bind (fillSlot closed k v names) := by
  induction names generalizing slots with
  | nil =>
      cases closed <;> rfl
  | cons name names ih =>
      cases slots with
      | nil =>
          cases closed <;> rfl
      | cons slot slots =>
          by_cases hk : name = k
          · subst hk
            by_cases hk' : name = k'
            · subst hk'
              cases slot with
              | none =>
                  rw [fillSlot_empty, fillSlot_empty, Option.bind_some, Option.bind_some,
                  fillSlot_full, fillSlot_full]
              | some d =>
                  rw [fillSlot_full, fillSlot_full]
                  rfl
            · exact fillSlot_comm_of_ne hk'
          · by_cases hk' : name = k'
            · subst hk'
              exact (fillSlot_comm_of_ne hk).symm
            · have hrest := congrArg (Option.map (slot :: ·)) (ih slots)
              rw [Option.map_bind, Option.map_bind] at hrest
              rw [fillSlot_other hk, fillSlot_other hk', Option.bind_map, Option.bind_map]
              have hfirst : fillSlot closed k' v' (name :: names) ∘ (slot :: ·) =
                  Option.map (slot :: ·) ∘ fillSlot closed k' v' names :=
                funext fun s => fillSlot_other hk'
              have hsecond : fillSlot closed k v (name :: names) ∘ (slot :: ·) =
                  Option.map (slot :: ·) ∘ fillSlot closed k v names :=
                funext fun s => fillSlot_other hk
              rw [hfirst, hsecond]
              exact hrest

/-- Puts a member into the slot of its name; a name without a value is a fault. -/
def fillMember (closed : Bool) (names : List String) (m : Option String × Document)
    (slots : Slots) : Option Slots :=
  m.1.bind fun key => fillSlot closed key m.2 names slots

theorem fillMember_comm (m m' : Option String × Document) (slots : Slots) :
    (fillMember closed names m slots).bind (fillMember closed names m') =
      (fillMember closed names m' slots).bind (fillMember closed names m) := by
  rcases m with ⟨key, value⟩
  rcases m' with ⟨key', value'⟩
  cases key with
  | none =>
      cases fillMember closed names (key', value') slots <;> rfl
  | some k =>
      cases key' with
      | none =>
          exact Option.bind_fun_none _
      | some k' =>
          exact fillSlot_comm k k' value value' slots

theorem fillSlots_cons (m : Option String × Document) (rest : List (Option String × Document)) :
    fillSlots closed names (m :: rest) slots =
      (fillMember closed names m slots).bind (fillSlots closed names rest) := by
  rcases m with ⟨key, value⟩
  cases key with
  | none =>
      rfl
  | some key =>
      simp only [fillSlots, fillMember, Option.bind_some]
      cases fillSlot closed key value names slots <;> rfl

/-- The slots do not depend on the order of the members. -/
theorem fillSlots_perm {members members' : List (Option String × Document)}
    (h : members.Perm members') (slots : Slots) :
    fillSlots closed names members slots = fillSlots closed names members' slots := by
  induction h generalizing slots with
  | nil =>
      rfl
  | cons m h ih =>
      rw [fillSlots_cons, fillSlots_cons, funext ih]
  | swap m m' rest =>
      have htwo : forall a b, fillSlots closed names (a :: b :: rest) slots =
          ((fillMember closed names a slots).bind (fillMember closed names b)).bind
            (fillSlots closed names rest) := by
        intro a b
        rw [fillSlots_cons, Option.bind_assoc]
        exact congrArg _ (funext fun s => fillSlots_cons b rest)
      rw [htwo, htwo, fillMember_comm]
  | trans h h' ih ih' =>
      rw [ih, ih']

/-!
## The members of a record
-/

theorem fillSlot_skip (h : key ∉ names) : fillSlot false key value names slots = some slots := by
  induction names generalizing slots with
  | nil =>
      rfl
  | cons name names ih =>
      rw [List.mem_cons, not_or] at h
      cases slots with
      | nil =>
          rfl
      | cons slot slots =>
          rw [fillSlot_other (Ne.symm h.1), ih h.2]
          rfl

theorem fillSlots_skip {others : List (Option String × Document)}
    (h : forall m, m ∈ others -> exists key, m.1 = some key ∧ key ∉ names) :
    fillSlots false names others slots = some slots := by
  induction others with
  | nil =>
      rfl
  | cons m others ih =>
      rcases h m List.mem_cons_self with ⟨key, hkey, hnames⟩
      rw [fillSlots_cons, fillMember, hkey, Option.bind_some, fillSlot_skip hnames,
        Option.bind_some]
      exact ih fun m' hm' => h m' (List.mem_cons_of_mem m hm')

theorem fillSlots_append (members others : List (Option String × Document)) :
    fillSlots closed names (members ++ others) slots =
      (fillSlots closed names members slots).bind (fillSlots closed names others) := by
  induction members generalizing slots with
  | nil =>
      rfl
  | cons m members ih =>
      rw [List.cons_append, fillSlots_cons, fillSlots_cons, Option.bind_assoc]
      exact congrArg _ (funext fun s => ih)

theorem fillSlot_append {before : List String} {filled : Slots} (h : key ∉ before)
    (hlength : filled.length = before.length) :
    fillSlot closed key value (before ++ key :: names) (filled ++ none :: slots) =
      some (filled ++ some value :: slots) := by
  induction before generalizing filled with
  | nil =>
      rw [List.length_eq_zero_iff.mp hlength]
      exact fillSlot_empty
  | cons name before ih =>
      rw [List.mem_cons, not_or] at h
      cases filled with
      | nil =>
          cases hlength
      | cons slot filled =>
          rw [List.cons_append, List.cons_append, fillSlot_other (Ne.symm h.1),
            ih h.2 (Nat.succ.inj hlength)]
          rfl

theorem fillSlots_fields {before : List String} {filled : Slots}
    (fields : List (String × Document)) (hlength : filled.length = before.length)
    (hnodup : (before ++ fields.map Prod.fst).Nodup) :
    fillSlots closed (before ++ fields.map Prod.fst) (fields.map fun f => (some f.1, f.2))
        (filled ++ fields.map fun _ => none) =
      some (filled ++ fields.map fun f => some f.2) := by
  induction fields generalizing before filled with
  | nil =>
      rfl
  | cons f fields ih =>
      rcases f with ⟨key, value⟩
      have hkey : key ∉ before := by
        intro hmem
        exact (List.nodup_append.mp hnodup).2.2 key hmem key List.mem_cons_self rfl
      have hlength' : (filled ++ [some value]).length = (before ++ [key]).length := by
        simp [hlength]
      rw [List.map_cons, List.append_cons before] at hnodup
      have hrest := ih hlength' hnodup
      simp only [List.append_assoc, List.singleton_append] at hrest
      simp only [List.map_cons]
      rw [fillSlots_cons, fillMember, Option.bind_some, fillSlot_append hkey hlength,
        Option.bind_some]
      exact hrest

end Order

theorem slots?_fields (closed : Bool) {fields : List (String × Document)}
    (hnodup : (fields.map Prod.fst).Nodup) :
    (Document.object (fields.map fun f => (some f.1, f.2))).slots? closed (fields.map Prod.fst) =
      some (fields.map fun f => some f.2) := by
  have hfields : fillSlots closed ([] ++ fields.map Prod.fst)
      (fields.map fun f => (some f.1, f.2)) ([] ++ fields.map fun _ => none) =
        some ([] ++ fields.map fun f => some f.2) :=
    fillSlots_fields fields rfl hnodup
  rw [slots?, List.map_map]
  exact hfields

/-- The members of a record in any order, with members of other names among them. -/
theorem slots?_of_perm {fields : List (String × Document)}
    {others members : List (Option String × Document)} (hnodup : (fields.map Prod.fst).Nodup)
    (hothers : forall m, m ∈ others -> exists key, m.1 = some key ∧ key ∉ fields.map Prod.fst)
    (hperm : members.Perm ((fields.map fun f => (some f.1, f.2)) ++ others)) :
    (Document.object members).slots? false (fields.map Prod.fst) =
      some (fields.map fun f => some f.2) := by
  have hfields := slots?_fields false hnodup
  rw [slots?] at hfields ⊢
  rw [fillSlots_perm hperm, fillSlots_append, hfields, Option.bind_some]
  exact fillSlots_skip hothers

/-!
## Reading what has been written
-/

theorem natBelow?_nat {n limit : Nat} (h : n < limit) :
    (Json.nat n).document.natBelow? limit = some n := by
  simp [Json.nat, document, natBelow?, h]

theorem count?_nat {n : Nat} (h : n < UInt64.size) : (Json.nat n).document.count? = some n :=
  natBelow?_nat h

theorem word64?_nat (w : UInt64) : (Json.nat w.toNat).document.word64? = some w := by
  rw [word64?, natBelow?_nat w.toNat_lt_size, Option.map_some, UInt64.ofNat_toNat]

theorem word32?_nat (w : UInt32) : (Json.nat w.toNat).document.word32? = some w := by
  rw [word32?, natBelow?_nat w.toNat_lt_size, Option.map_some, UInt32.ofNat_toNat]

theorem duration?_ofDuration (d : Duration) : (ofDuration d).document.duration? = some d := by
  have hbounds := d.parts_lt
  have hnames : ["secs", "nanos"].Nodup := by decide
  let fields := [("secs", (nat d.secs).document), ("nanos", (nat d.subsecNanos).document)]
  have hslots : (ofDuration d).document.slots? true ["secs", "nanos"] =
      some [some (nat d.secs).document, some (nat d.subsecNanos).document] :=
    slots?_fields true (show (fields.map Prod.fst).Nodup from hnames)
  rw [duration?, hslots]
  change ((nat d.secs).document.count?.bind fun secs =>
    ((nat d.subsecNanos).document.natBelow? UInt32.size).bind fun nanos =>
      Duration.ofParts? secs nanos) = some d
  rw [count?_nat hbounds.1, Option.bind_some, natBelow?_nat hbounds.2, Option.bind_some,
    Duration.ofParts?_secs_subsecNanos]

end Document
end Json
end PoolHealth
