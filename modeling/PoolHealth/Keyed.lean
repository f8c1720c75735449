/-!
# Lists with keys

Values under keys, in an order that is seen: the order in which keys were first set,
or the order of the keys.  Setting a key changes what is found under it and nothing
else.
-/

namespace PoolHealth
namespace Keyed

/-- Sets a key: its value is replaced where it stands, a new key goes to the end. -/
def set {κ α : Type} [DecidableEq κ] (key : κ) (value : α) : List (κ × α) -> List (κ × α)
  | [] => [(key, value)]
  | (k, v) :: rest => if k = key then (key, value) :: rest else (k, v) :: set key value rest

/-- Sets a key of a list in the order of its keys, and keeps it in that order. -/
def insert {α : Type} (key : String) (value : α) : List (String × α) -> List (String × α)
  | [] => [(key, value)]
  | (k, v) :: rest =>
      if k = key then (key, value) :: rest
      else if key < k then (key, value) :: (k, v) :: rest
      else (k, v) :: insert key value rest

def erase {κ α : Type} [DecidableEq κ] (key : κ) (entries : List (κ × α)) : List (κ × α) :=
  entries.filter fun e => e.1 != key

/-!
## What is found afterwards
-/

theorem lookup_cons_of_ne {κ α : Type} [DecidableEq κ] {k key : κ} (v : α)
    (rest : List (κ × α)) (h : k ≠ key) :
    List.lookup key ((k, v) :: rest) = List.lookup key rest := by
  have : (key == k) = false := beq_false_of_ne (Ne.symm h)
  simp only [List.lookup_cons, this]

theorem lookup_set_self {κ α : Type} [DecidableEq κ] (key : κ) (value : α)
    (entries : List (κ × α)) : (set key value entries).lookup key = some value := by
  induction entries with
  | nil =>
      simp [set]
  | cons e rest ih =>
      rcases e with ⟨k, v⟩
      unfold set
      split
      · simp
      · rename_i h
        rw [lookup_cons_of_ne v _ h, ih]

theorem lookup_set_of_ne {κ α : Type} [DecidableEq κ] {key other : κ} (value : α)
    (entries : List (κ × α)) (h : key ≠ other) :
    (set key value entries).lookup other = entries.lookup other := by
  induction entries with
  | nil =>
      rw [set, lookup_cons_of_ne value [] h]
  | cons e rest ih =>
      rcases e with ⟨k, v⟩
      unfold set
      split
      · rename_i hk
        subst hk
        rw [lookup_cons_of_ne value rest h, lookup_cons_of_ne v rest h]
      · by_cases ho : k = other
        · subst ho
          simp
        · rw [lookup_cons_of_ne v _ ho, lookup_cons_of_ne v _ ho, ih]

end Keyed
end PoolHealth
