import PoolHealth.Proofs.Manager.Errands

/-!
# What observers see of a manager

Whoever asks a manager whether it is initialized, or for a pool by its name, does not wait for
its lock.  What such observers see agrees, unless somebody is closing the pools of a manager
that was initialized: then the manager still says that it is, and has no pools any more.
-/

namespace PoolHealth
namespace Fleet

variable {c : ManagerConfig} {s t : Fleet} {k : ManagerCall}

/-- If the manager says that it is initialized, it has a pool for every name in its
configuration, and otherwise it has none at all. -/
structure Agrees (c : ManagerConfig) (m : PoolManager) : Prop where
  finds : m.initialized = true ->
    forall d, d ∈ c.pools -> (m.find? d.name).isSome = true
  empty : m.initialized = false -> forall name, m.find? name = none

theorem find?_of_empty {m : PoolManager} (h : m.pools = []) (name : String) :
    m.find? name = none := by
  unfold PoolManager.find?
  rw [h]
  rfl

theorem Tidy.agrees {m : PoolManager} (h : Tidy c m) : Agrees c m where
  finds := by
    intro hinitialized d hd
    have hready : m.phase = .ready := by
      by_contra hnot
      rw [(h.empty hnot).2] at hinitialized
      cases hinitialized
    apply Keyed.isSome_lookup_iff.mpr
    exact (h.complete hready).2.2.mem_iff.mpr (List.mem_map_of_mem hd)
  empty := by
    intro hnot
    have hphase : m.phase ≠ .ready := by
      intro hready
      rw [(h.complete hready).1] at hnot
      cases hnot
    exact find?_of_empty (h.empty hphase).1

/-- While the pools are closed, none is found, and the manager says what it has said before. -/
theorem Closing.agrees_iff {pools : List (String × PoolRef)}
    {errands : List (Errand (Except PoolError Unit))} (h : s.Closing pools errands) :
    Agrees c s.manager <-> ¬(c.pools ≠ [] ∧ s.manager.initialized = true) := by
  constructor
  · rintro hagrees ⟨hpools, hinitialized⟩
    rcases List.exists_mem_of_ne_nil _ hpools with ⟨d, hd⟩
    have hfound := hagrees.finds hinitialized d hd
    rw [find?_of_empty h.emptied] at hfound
    cases hfound
  · intro hnot
    refine ⟨fun hinitialized d hd => ?_, fun _ => find?_of_empty h.emptied⟩
    exact absurd ⟨List.ne_nil_of_mem hd, hinitialized⟩ hnot

/-- What observers see agrees if and only if nobody is closing the pools of a manager that was
initialized. -/
theorem Run.observations_agree_iff {log : Log} (h : Run (ofConfig c) log t) :
    Agrees c t.manager <->
      ¬(c.pools ≠ [] ∧ t.manager.initialized = true ∧
        exists k, k ∈ t.calls ∧ k.isClosing = true) := by
  have hsound := h.sound
  by_cases hclosing : exists k, k ∈ t.calls ∧ k.isClosing = true
  · have hcloses := hclosing
    rcases hclosing with ⟨k, hk, hisClosing⟩
    rcases List.getElem?_of_mem hk with ⟨i, hi⟩
    cases k with
    | closeAll k errands =>
        cases k with
        | closing pools =>
            rw [(hsound.fits i _ hi).2.agrees_iff]
            simp only [hcloses, and_true]
        | queued ticket =>
            cases hisClosing
    | bringUp k | broughtUp r | allClosed | checkAll k errands | allChecked k outcomes verdicts =>
        cases hisClosing
  · refine iff_of_true (hsound.tidy fun k hk => ?_).agrees fun hall => hclosing hall.2.2
    exact Bool.eq_false_iff.mpr fun hisClosing => hclosing ⟨k, hk, hisClosing⟩

def onePool : ManagerConfig := ⟨[⟨PoolConfig.named "database", .database "main"⟩]⟩

/-- The only pool is brought up, and then all pools are closed, which has only begun. -/
def closingBegins : List FleetAction :=
  [.call .bringUp, .reply 0 (.built (.ok 0)), .reply 0 (.warmedUp (.ok ())), .call .closeAll]

theorem agrees_iff_closing : exists log t, Run (ofConfig onePool) log t ∧
    log.map (fun e => e.2) = closingBegins ∧
      (Agrees onePool t.manager <->
        ¬(onePool.pools ≠ [] ∧ t.manager.initialized = true ∧
          exists k, k ∈ t.calls ∧ k.isClosing = true)) := by
  have hany : (run (ofConfig onePool) closingBegins).any (fun _ => true) = true := by
    decide +kernel
  rcases Trace.exists_of_any hany with ⟨log, t, h, hactions, _⟩
  exact ⟨log, t, h, hactions, Run.observations_agree_iff h⟩

/-- The manager says that it is initialized, and does not find the pool of its configuration. -/
theorem initialized_without_pools : ¬forall (c : ManagerConfig) (log : Log) (t : Fleet),
    Run (ofConfig c) log t -> Agrees c t.manager := by
  intro hall
  have hany : (run (ofConfig onePool) closingBegins).any (fun t =>
      t.manager.initialized = true ∧ t.manager.find? "database" = none) = true := by
    decide +kernel
  rcases Trace.exists_of_any hany with ⟨log, t, h, _, hend⟩
  rcases of_decide_eq_true hend with ⟨hinitialized, hnone⟩
  have hfound := (hall onePool log t h).finds hinitialized _ (List.mem_singleton_self _)
  have hname : PoolDefinition.name ⟨PoolConfig.named "database", .database "main"⟩ = "database" :=
    rfl
  rw [hname, hnone] at hfound
  cases hfound

end Fleet
end PoolHealth
