import Mathlib.Data.List.Induction
import Mathlib.Data.List.Nodup
import PoolHealth.Keyed

/-!
# Keys that stand once

What is found in a list with keys does not depend on the order of its entries as long as no key
stands twice, and setting a key keeps it so.  Values that are collected under their keys are such a
list, and so are entries that know their own key.
-/

namespace PoolHealth
namespace Keyed

variable {κ α β : Type} [DecidableEq κ] {key : κ} {value : α} {entries : List (κ × α)}

theorem lookup_eq_some_of_mem (hnodup : (entries.map fun e => e.1).Nodup)
    (hmem : (key, value) ∈ entries) : entries.lookup key = some value := by
  induction entries with
  | nil =>
      cases hmem
  | cons e rest ih =>
      rcases e with ⟨k, v⟩
      rw [List.map_cons, List.nodup_cons] at hnodup
      rcases List.mem_cons.mp hmem with heq | hrest
      · cases heq
        exact List.lookup_cons_self
      · have hne : k ≠ key := by
          intro heq
          subst heq
          exact hnodup.1 (List.mem_map.mpr ⟨_, hrest, rfl⟩)
        rw [lookup_cons_of_ne v rest hne]
        exact ih hnodup.2 hrest

theorem mem_of_lookup (h : entries.lookup key = some value) : (key, value) ∈ entries := by
  rcases List.lookup_eq_some_iff.mp h with ⟨before, after, heq, _⟩
  rw [heq]
  exact List.mem_append_right before List.mem_cons_self

theorem lookup_eq_none_of_notMem (hnot : key ∉ entries.map fun e => e.1) :
    entries.lookup key = none := by
  rw [List.lookup_eq_none_iff]
  intro e he
  rw [bne_iff_ne]
  intro heq
  apply hnot
  rw [heq]
  exact List.mem_map_of_mem he

theorem mem_set {e : κ × α} (h : e ∈ set key value entries) : e = (key, value) ∨ e ∈ entries := by
  induction entries with
  | nil =>
      exact Or.inl (List.mem_singleton.mp h)
  | cons d rest ih =>
      unfold set at h
      split at h
      · rcases List.mem_cons.mp h with heq | hrest
        · exact Or.inl heq
        · exact Or.inr (List.mem_cons_of_mem _ hrest)
      · rcases List.mem_cons.mp h with heq | hrest
        · rw [heq]
          exact Or.inr List.mem_cons_self
        · rcases ih hrest with heq | hmem
          · exact Or.inl heq
          · exact Or.inr (List.mem_cons_of_mem _ hmem)

theorem nodup_set (h : (entries.map fun e => e.1).Nodup) :
    ((set key value entries).map fun e => e.1).Nodup := by
  induction entries with
  | nil =>
      exact List.nodup_singleton key
  | cons d rest ih =>
      rcases d with ⟨k, v⟩
      rw [List.map_cons, List.nodup_cons] at h
      unfold set
      split
      · rename_i hk
        subst hk
        exact List.nodup_cons.mpr h
      · rename_i hk
        rw [List.map_cons, List.nodup_cons]
        constructor
        · intro hmem
          rcases List.mem_map.mp hmem with ⟨e, he, hfst⟩
          rcases mem_set he with rfl | hrest
          · exact hk hfst.symm
          · exact h.1 (List.mem_map.mpr ⟨e, hrest, hfst⟩)
        · exact ih h.2

theorem map_set (f : α -> β) (key : κ) (value : α) (entries : List (κ × α)) :
    (set key value entries).map (fun e => (e.1, f e.2))
      = set key (f value) (entries.map fun e => (e.1, f e.2)) := by
  induction entries with
  | nil =>
      rfl
  | cons d rest ih =>
      rcases d with ⟨k, v⟩
      rw [List.map_cons]
      unfold set
      split
      · rfl
      · rw [List.map_cons, ih]

theorem lookup_map (f : α -> β) (entries : List (κ × α)) (key : κ) :
    (entries.map fun e => (e.1, f e.2)).lookup key = (entries.lookup key).map f := by
  induction entries with
  | nil =>
      rfl
  | cons d rest ih =>
      rcases d with ⟨k, v⟩
      rw [List.map_cons]
      by_cases hk : k = key
      · subst hk
        rw [List.lookup_cons_self, List.lookup_cons_self]
        rfl
      · rw [lookup_cons_of_ne _ _ hk, lookup_cons_of_ne _ _ hk, ih]

/-!
## Values under their keys
-/

/-- Values under their keys.  Of values with the same key the last one counts. -/
def collect (key : α -> κ) (values : List α) : List (κ × α) :=
  values.foldl (fun acc a => set (key a) a acc) []

theorem collect_concat (key : α -> κ) (values : List α) (a : α) :
    collect key (values ++ [a]) = set (key a) a (collect key values) :=
  List.foldl_concat _ _ _ _

theorem nodup_collect (key : α -> κ) (values : List α) :
    ((collect key values).map fun e => e.1).Nodup := by
  induction values using List.reverseRecOn with
  | nil =>
      exact List.nodup_nil
  | append_singleton values a ih =>
      rw [collect_concat]
      exact nodup_set ih

theorem mem_collect {key : α -> κ} {values : List α} {e : κ × α} (h : e ∈ collect key values) :
    key e.2 = e.1 ∧ e.2 ∈ values := by
  induction values using List.reverseRecOn with
  | nil =>
      cases h
  | append_singleton values a ih =>
      rw [collect_concat] at h
      rcases mem_set h with rfl | hmem
      · exact ⟨rfl, List.mem_append_right _ (List.mem_singleton_self a)⟩
      · exact ⟨(ih hmem).1, List.mem_append_left _ (ih hmem).2⟩

theorem map_collect (key : β -> κ) (f : α -> β) (values : List α) :
    (collect (fun a => key (f a)) values).map (fun e => (e.1, f e.2))
      = collect key (values.map f) := by
  induction values using List.reverseRecOn with
  | nil =>
      rfl
  | append_singleton values a ih =>
      rw [collect_concat, map_set, ih, List.map_append, List.map_singleton, collect_concat]

def upsert (keyOf : α -> κ) (key : κ) (new : α) (change : α -> α) : List α -> List α
  | [] => [new]
  | a :: rest =>
      if keyOf a = key then change a :: rest else a :: upsert keyOf key new change rest

section Upsert

variable {keyOf : α -> κ} {new a : α} {change : α -> α} {as : List α}

theorem map_upsert (hnew : keyOf new = key) (hchange : forall a, keyOf (change a) = keyOf a)
    (as : List α) :
    (upsert keyOf key new change as).map keyOf =
      if key ∈ as.map keyOf then as.map keyOf else as.map keyOf ++ [key] := by
  induction as with
  | nil =>
      exact congrArg (fun k => [k]) hnew
  | cons a rest ih =>
      unfold upsert
      rw [List.map_cons]
      by_cases ha : keyOf a = key
      · rw [if_pos ha, if_pos (List.mem_cons.mpr (Or.inl ha.symm)), List.map_cons, hchange]
      · rw [if_neg ha, List.map_cons, ih]
        by_cases hrest : key ∈ rest.map keyOf
        · rw [if_pos hrest, if_pos (List.mem_cons_of_mem _ hrest)]
        · have hnot : key ∉ keyOf a :: rest.map keyOf := by
            rw [List.mem_cons, not_or]
            exact ⟨Ne.symm ha, hrest⟩
          rw [if_neg hrest, if_neg hnot, List.cons_append]

theorem nodup_upsert (hnew : keyOf new = key) (hchange : forall a, keyOf (change a) = keyOf a)
    (h : (as.map keyOf).Nodup) : ((upsert keyOf key new change as).map keyOf).Nodup := by
  rw [map_upsert hnew hchange]
  by_cases hmem : key ∈ as.map keyOf
  · rw [if_pos hmem]
    exact h
  · rw [if_neg hmem, ← List.concat_eq_append]
    exact h.concat hmem

theorem find?_upsert (hnew : keyOf new = key) (hchange : forall a, keyOf (change a) = keyOf a)
    (as : List α) (other : κ) :
    (upsert keyOf key new change as).find? (fun a => decide (keyOf a = other)) =
      if key = other then
        some (((as.find? fun a => decide (keyOf a = other)).map change).getD new)
      else as.find? fun a => decide (keyOf a = other) := by
  induction as with
  | nil =>
      by_cases hother : key = other
      · simp [upsert, hnew, hother]
      · simp [upsert, hnew, hother]
  | cons a rest ih =>
      unfold upsert
      by_cases ha : keyOf a = key
      · rw [if_pos ha]
        by_cases hother : key = other
        · simp [hchange, ha, hother]
        · simp [hchange, ha, hother]
      · rw [if_neg ha]
        by_cases hfound : keyOf a = other
        · have hne : key ≠ other := by
            intro heq
            exact ha (hfound.trans heq.symm)
          simp [hne, hfound]
        · simp [hfound, ih]

theorem upsert_of_find? (hfound : as.find? (fun b => decide (keyOf b = key)) = some a)
    (hsame : change a = a) : upsert keyOf key new change as = as := by
  induction as with
  | nil =>
      cases hfound
  | cons b rest ih =>
      unfold upsert
      by_cases hb : keyOf b = key
      · have hfirst : b = a := by simpa [hb] using hfound
        rw [if_pos hb, hfirst, hsame]
      · rw [if_neg hb, ih (by simpa [hb] using hfound)]

theorem find?_eq_some_iff_mem (hnodup : (as.map keyOf).Nodup) :
    as.find? (fun b => decide (keyOf b = keyOf a)) = some a <-> a ∈ as := by
  constructor
  · exact List.mem_of_find?_eq_some
  · intro hmem
    induction as with
    | nil =>
        cases hmem
    | cons b rest ih =>
        rw [List.map_cons, List.nodup_cons] at hnodup
        rcases List.mem_cons.mp hmem with rfl | hrest
        · simp
        · have hne : keyOf b ≠ keyOf a := by
            intro heq
            apply hnodup.1
            rw [heq]
            exact List.mem_map_of_mem hrest
          simp [hne, ih hnodup.2 hrest]

end Upsert

end Keyed
end PoolHealth
