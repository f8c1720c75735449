import Mathlib.Data.List.Nodup
import Mathlib.Data.List.Perm.Basic
import PoolHealth.Manager.PoolManager
import PoolHealth.Keyed

/-!
# Names of pools

A configuration is accepted if every pool in it is set up properly and no two of them have the
same name.  Pools that come under different names are all found, whatever the order in which
they come.
-/

namespace PoolHealth

namespace Keyed

variable {α : Type} {key : String} {value : α} {entries : List (String × α)}

theorem perm_insert (h : key ∉ entries.map (fun e => e.1)) :
    (insert key value entries).Perm ((key, value) :: entries) := by
  induction entries with
  | nil =>
      exact List.Perm.refl _
  | cons e rest ih =>
      rcases e with ⟨k, v⟩
      simp only [List.map_cons, List.mem_cons, not_or] at h
      unfold insert
      rw [if_neg (Ne.symm h.1)]
      split
      · exact List.Perm.refl _
      · exact ((ih h.2).cons (k, v)).trans (List.Perm.swap _ _ _)

theorem perm_foldl_insert (added : List (String × α))
    (h : ((added ++ entries).map (fun e => e.1)).Nodup) :
    (added.foldl (fun es e => insert e.1 e.2 es) entries).Perm (added ++ entries) := by
  induction added generalizing entries with
  | nil =>
      exact List.Perm.refl _
  | cons e rest ih =>
      simp only [List.cons_append, List.map_cons, List.nodup_cons, List.map_append,
        List.mem_append, not_or] at h
      have hinsert : (insert e.1 e.2 entries).Perm (e :: entries) := perm_insert h.1.2
      have hmiddle : (rest ++ insert e.1 e.2 entries).Perm (e :: (rest ++ entries)) :=
        (hinsert.append_left rest).trans List.perm_middle
      rw [List.foldl_cons]
      refine (ih ?_).trans hmiddle
      rw [(hmiddle.map _).nodup_iff, List.map_cons, List.nodup_cons, List.map_append,
        List.mem_append, not_or]
      exact ⟨h.1, h.2⟩

theorem isSome_lookup_iff :
    (entries.lookup key).isSome = true <-> key ∈ entries.map (fun e => e.1) := by
  rw [List.lookup_isSome_iff, List.mem_map]
  constructor
  · rintro ⟨e, he, hkey⟩
    exact ⟨e, he, (eq_of_beq hkey).symm⟩
  · rintro ⟨e, he, rfl⟩
    exact ⟨e, he, beq_self_eq_true _⟩

end Keyed

namespace ManagerConfig

theorem firstFault?_eq_none_iff (seen : List String) (ps : List PoolDefinition) :
    firstFault? seen ps = none <->
      (forall d, d ∈ ps -> d.config.fault? = none) ∧ (ps.map PoolDefinition.name).Nodup ∧
        forall d, d ∈ ps -> d.name ∉ seen := by
  induction ps generalizing seen with
  | nil =>
      simp [firstFault?]
  | cons d rest ih =>
      unfold firstFault?
      cases hfault : d.config.fault? with
      | some e =>
          simp [hfault]
      | none =>
          by_cases hseen : seen.contains d.name = true
          · simp only [hseen, if_true, List.mem_cons]
            refine ⟨nofun, ?_⟩
            rintro ⟨_, _, hnew⟩
            exact absurd (List.elem_iff.mp hseen) (hnew d (Or.inl rfl))
          · have hnew : d.name ∉ seen := fun hmem => hseen (List.elem_iff.mpr hmem)
            rw [if_neg hseen, ih]
            simp only [List.mem_cons, forall_eq_or_imp, hfault, true_and, List.map_cons,
              List.nodup_cons, List.mem_map, not_exists, not_and, not_or]
            constructor
            · rintro ⟨hfaults, hnodup, hothers⟩
              exact ⟨hfaults, ⟨fun e he => (hothers e he).1, hnodup⟩, hnew,
                fun e he => (hothers e he).2⟩
            · rintro ⟨hfaults, ⟨hdifferent, hnodup⟩, _, hothers⟩
              exact ⟨hfaults, hnodup, fun e he => ⟨hdifferent e he, hothers e he⟩⟩

/-- A configuration is accepted if every definition is, and no name is used twice. -/
theorem fault?_eq_none_iff (c : ManagerConfig) :
    c.fault? = none <->
      (forall d, d ∈ c.pools -> d.config.fault? = none) ∧
        (c.pools.map PoolDefinition.name).Nodup := by
  unfold fault?
  rw [firstFault?_eq_none_iff]
  simp

end ManagerConfig
end PoolHealth
