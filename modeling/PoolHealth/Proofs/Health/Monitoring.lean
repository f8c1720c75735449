import PoolHealth.Health.Monitor
import PoolHealth.Keyed
import PoolHealth.Proofs.Trace

/-!
# Who monitors

Calls to start and to stop monitoring meet the loops of a service.  A call to stop lets go of a
loop first and waits for its end afterwards, so meanwhile another loop may be started.  Of all the
loops that have not ended, one at most was not told to stop, and that is the one that the monitor
knows; for each of the others a call to stop waits.
-/

namespace PoolHealth

namespace Monitor

variable {m : Monitor} {r s : LoopRef} {l : MonitorLoop}

theorem lookup_modify (f : MonitorLoop -> MonitorLoop) (loops : List (LoopRef × MonitorLoop)) :
    (loops.map fun e => if e.1 = r then (e.1, f e.2) else (e.1, e.2)).lookup s
      = (loops.lookup s).map fun l => if s = r then f l else l := by
  induction loops with
  | nil =>
      rfl
  | cons e rest ih =>
      rcases e with ⟨t, l⟩
      rw [List.map_cons]
      by_cases hts : t = s
      · subst hts
        rw [List.lookup_cons_self]
        split
        · exact List.lookup_cons_self
        · exact List.lookup_cons_self
      · rw [Keyed.lookup_cons_of_ne l rest hts, ← ih]
        split
        · exact Keyed.lookup_cons_of_ne _ _ hts
        · exact Keyed.lookup_cons_of_ne _ _ hts

theorem loop?_modify (m : Monitor) (r s : LoopRef) (f : MonitorLoop -> MonitorLoop) :
    (m.modify r f).loop? s = (m.loop? s).map fun l => if s = r then f l else l :=
  lookup_modify f m.loops

theorem loop?_remove (m : Monitor) (r s : LoopRef) :
    (m.remove r).loop? s = if s = r then none else m.loop? s := by
  unfold remove loop?
  induction m.loops with
  | nil =>
      exact (ite_self none).symm
  | cons e rest ih =>
      rcases e with ⟨t, l⟩
      by_cases htr : t = r
      · subst htr
        rw [List.filter_cons_of_neg (by simp), ih]
        by_cases hst : s = t
        · rw [if_pos hst, if_pos hst]
        · rw [if_neg hst, if_neg hst, Keyed.lookup_cons_of_ne l rest (Ne.symm hst)]
      · rw [List.filter_cons_of_pos (by simpa using htr)]
        by_cases hts : t = s
        · subst hts
          rw [List.lookup_cons_self, if_neg htr, List.lookup_cons_self]
        · rw [Keyed.lookup_cons_of_ne l _ hts, Keyed.lookup_cons_of_ne l rest hts, ih]

def isCycling (m : Monitor) (r : LoopRef) : Bool :=
  match m.loop? r with
  | some ⟨.cycling, _⟩ => true
  | _ => false

def isTold (m : Monitor) (r : LoopRef) : Bool := (m.loop? r).any fun l => l.stopping

end Monitor

inductive StopCall where
  | waiting (r : LoopRef)
  | returned (r : Option LoopRef)
deriving DecidableEq

structure Patrol where
  config : HealthConfig
  monitor : Monitor := {}
  stops : List StopCall := []

inductive PatrolAction where
  | start
  | stop
  /-- A cycle of a loop has ended after any time, or it broke down. -/
  | cycleEnded (r : LoopRef) (brokeDown : Bool)
  | pauseEnded (r : LoopRef)
  | leave (r : LoopRef)
  | returned (i : Nat)

namespace Patrol

def ofConfig (c : HealthConfig) : Patrol where
  config := c

def step (p : Patrol) : PatrolAction -> Option Patrol
  | .start => some { p with monitor := p.monitor.start.1 }
  | .stop =>
      match p.monitor.stop with
      | (m, some r) => some { p with monitor := m, stops := p.stops ++ [.waiting r] }
      | (m, none) => some { p with monitor := m, stops := p.stops ++ [.returned none] }
  | .cycleEnded r brokeDown =>
      if p.monitor.isCycling r then
        some { p with monitor := p.monitor.cycleEnded p.config r brokeDown }
      else none
  | .pauseEnded r =>
      if p.monitor.isPausing r then some { p with monitor := p.monitor.pauseEnded r } else none
  | .leave r =>
      if p.monitor.isPausing r && p.monitor.isTold r then
        some { p with monitor := p.monitor.remove r }
      else none
  | .returned i =>
      match p.stops[i]? with
      | some (.waiting r) =>
          if p.monitor.loop? r = none then
            some { p with stops := p.stops.set i (.returned (some r)) }
          else none
      | _ => none

abbrev Log := List (Patrol × PatrolAction)

abbrev Run : Patrol -> Log -> Patrol -> Prop := Trace Patrol.step

variable {p q : Patrol} {r s : LoopRef} {l : MonitorLoop}

structure Supervised (p : Patrol) : Prop where
  /-- A loop that was not told to stop is the one that the monitor knows. -/
  current_iff : forall r, p.monitor.current = some r <->
    exists l, p.monitor.loop? r = some l ∧ l.stopping = false
  /-- For the end of every other loop a call waits. -/
  awaited : forall r l, p.monitor.loop? r = some l -> l.stopping = true -> .waiting r ∈ p.stops
  /-- A call returns only when the loop that it let go of has ended. -/
  ended : forall r, .returned (some r) ∈ p.stops -> p.monitor.loop? r = none
  known : forall r l, p.monitor.loop? r = some l -> r < p.monitor.nextRef
  past : forall r, .returned (some r) ∈ p.stops ∨ .waiting r ∈ p.stops -> r < p.monitor.nextRef

theorem supervised_ofConfig (c : HealthConfig) : (ofConfig c).Supervised := by
  constructor
  · intro r
    constructor
    · intro h
      cases h
    · rintro ⟨l, h, _⟩
      cases h
  · intro r l h
    cases h
  · intro r h
    cases h
  · intro r l h
    cases h
  · intro r h
    rcases h with h | h
    · cases h
    · cases h

namespace Supervised

theorem modify {f : MonitorLoop -> MonitorLoop} (h : p.Supervised)
    (hf : forall l, (f l).stopping = l.stopping) (r : LoopRef) :
    Supervised { p with monitor := p.monitor.modify r f } := by
  have hback : forall s l, (p.monitor.modify r f).loop? s = some l ->
      exists l', p.monitor.loop? s = some l' ∧ l.stopping = l'.stopping := by
    intro s l hl
    rw [Monitor.loop?_modify] at hl
    rcases Option.map_eq_some_iff.mp hl with ⟨l', hl', rfl⟩
    refine ⟨l', hl', ?_⟩
    split
    · exact hf l'
    · rfl
  constructor
  · intro s
    show p.monitor.current = some s <-> _
    rw [h.current_iff]
    constructor
    · rintro ⟨l, hl, htold⟩
      refine ⟨if s = r then f l else l, ?_, ?_⟩
      · rw [Monitor.loop?_modify, hl]
        rfl
      · split
        · rw [hf]
          exact htold
        · exact htold
    · rintro ⟨l, hl, htold⟩
      rcases hback s l hl with ⟨l', hl', hsame⟩
      exact ⟨l', hl', hsame ▸ htold⟩
  · intro s l hl htold
    rcases hback s l hl with ⟨l', hl', hsame⟩
    exact h.awaited s l' hl' (hsame ▸ htold)
  · intro s hs
    rw [Monitor.loop?_modify, h.ended s hs]
    rfl
  · intro s l hl
    rcases hback s l hl with ⟨l', hl', _⟩
    exact h.known s l' hl'
  · exact h.past

theorem idle (h : p.Supervised) (hidle : p.monitor.isMonitoring = false) :
    p.monitor.current = none := by
  cases hcurrent : p.monitor.current with
  | none =>
      rfl
  | some r =>
      rcases (h.current_iff r).mp hcurrent with ⟨l, hl, _⟩
      unfold Monitor.isMonitoring at hidle
      simp only [hcurrent, hl] at hidle
      cases hidle

theorem start (h : p.Supervised) : Supervised { p with monitor := p.monitor.start.1 } := by
  unfold Monitor.start
  split
  · exact h
  · rename_i hidle
    have hnone := h.idle (Bool.eq_false_iff.mpr hidle)
    have hfirst : ((p.monitor.nextRef, ({} : MonitorLoop)) :: p.monitor.loops).lookup
        p.monitor.nextRef = some {} := List.lookup_cons_self
    have hothers : forall {s : LoopRef}, s ≠ p.monitor.nextRef ->
        ((p.monitor.nextRef, ({} : MonitorLoop)) :: p.monitor.loops).lookup s
          = p.monitor.loop? s := fun hs => Keyed.lookup_cons_of_ne _ _ (Ne.symm hs)
    have hcases : forall {s : LoopRef} {l : MonitorLoop},
        ((p.monitor.nextRef, ({} : MonitorLoop)) :: p.monitor.loops).lookup s = some l ->
          (s = p.monitor.nextRef ∧ l.stopping = false) ∨ p.monitor.loop? s = some l := by
      intro s l hl
      by_cases hs : s = p.monitor.nextRef
      · subst hs
        rw [hfirst] at hl
        cases hl
        exact Or.inl ⟨rfl, rfl⟩
      · rw [hothers hs] at hl
        exact Or.inr hl
    constructor
    · intro s
      constructor
      · intro hs
        cases hs
        exact ⟨{}, hfirst, rfl⟩
      · rintro ⟨l, hl, htold⟩
        rcases hcases hl with ⟨rfl, _⟩ | hold
        · rfl
        · have hcurrent := (h.current_iff s).mpr ⟨l, hold, htold⟩
          rw [hnone] at hcurrent
          cases hcurrent
    · intro s l hl htold
      rcases hcases hl with ⟨_, hfalse⟩ | hold
      · rw [hfalse] at htold
        cases htold
      · exact h.awaited s l hold htold
    · intro s hs
      exact (hothers (Nat.ne_of_lt (h.past s (Or.inl hs)))).trans (h.ended s hs)
    · intro s l hl
      rcases hcases hl with ⟨rfl, _⟩ | hold
      · exact Nat.lt_succ_self _
      · exact Nat.lt_succ_of_lt (h.known s l hold)
    · intro s hs
      exact Nat.lt_succ_of_lt (h.past s hs)

theorem letGo (h : p.Supervised) (hcurrent : p.monitor.current = some r) :
    Supervised { p with
      monitor := ({ p.monitor with current := none } : Monitor).signal r
      stops := p.stops ++ [.waiting r] } := by
  have hloop : forall s, (({ p.monitor with current := none } : Monitor).signal r).loop? s
      = (p.monitor.loop? s).map fun l => if s = r then { l with stopping := true } else l :=
    fun s => Monitor.loop?_modify { p.monitor with current := none } r s _
  have hmem : forall {c : StopCall}, c ∈ p.stops ++ [.waiting r] ->
      c ∈ p.stops ∨ c = .waiting r := by
    intro c hc
    rcases List.mem_append.mp hc with hold | hnew
    · exact Or.inl hold
    · exact Or.inr (List.mem_singleton.mp hnew)
  have hreturned : forall {s : LoopRef}, .returned (some s) ∈ p.stops ++ [.waiting r] ->
      .returned (some s) ∈ p.stops := by
    intro s hs
    rcases hmem hs with hold | hnew
    · exact hold
    · cases hnew
  constructor
  · intro s
    constructor
    · intro hs
      cases hs
    · rintro ⟨l, hl, htold⟩
      rw [hloop] at hl
      rcases Option.map_eq_some_iff.mp hl with ⟨l', hl', rfl⟩
      split at htold
      · cases htold
      · rename_i hne
        have hs := (h.current_iff s).mpr ⟨l', hl', htold⟩
        rw [hcurrent] at hs
        cases hs
        exact absurd rfl hne
  · intro s l hl htold
    rw [hloop] at hl
    rcases Option.map_eq_some_iff.mp hl with ⟨l', hl', rfl⟩
    split at htold
    · rename_i heq
      rw [heq]
      exact List.mem_append_right _ (List.mem_singleton_self _)
    · exact List.mem_append_left _ (h.awaited s l' hl' htold)
  · intro s hs
    rw [hloop, h.ended s (hreturned hs)]
    rfl
  · intro s l hl
    rw [hloop] at hl
    rcases Option.map_eq_some_iff.mp hl with ⟨l', hl', _⟩
    exact h.known s l' hl'
  · intro s hs
    rcases hs with hs | hs
    · exact h.past s (Or.inl (hreturned hs))
    · rcases hmem hs with hold | hnew
      · exact h.past s (Or.inr hold)
      · cases hnew
        rcases (h.current_iff r).mp hcurrent with ⟨l, hl, _⟩
        exact h.known r l hl

theorem remove (h : p.Supervised) (htold : p.monitor.isTold r = true) :
    Supervised { p with monitor := p.monitor.remove r } := by
  have hback : forall {s : LoopRef} {l : MonitorLoop}, (p.monitor.remove r).loop? s = some l ->
      p.monitor.loop? s = some l := by
    intro s l hl
    rw [Monitor.loop?_remove] at hl
    split at hl
    · cases hl
    · exact hl
  constructor
  · intro s
    show p.monitor.current = some s <-> _
    rw [h.current_iff]
    constructor
    · rintro ⟨l, hl, hfree⟩
      have hne : s ≠ r := by
        intro heq
        subst heq
        unfold Monitor.isTold at htold
        rw [hl, Option.any_some, hfree] at htold
        cases htold
      refine ⟨l, ?_, hfree⟩
      rw [Monitor.loop?_remove, if_neg hne]
      exact hl
    · rintro ⟨l, hl, hfree⟩
      exact ⟨l, hback hl, hfree⟩
  · intro s l hl hstopping
    exact h.awaited s l (hback hl) hstopping
  · intro s hs
    rw [Monitor.loop?_remove, h.ended s hs, ite_self]
  · intro s l hl
    exact h.known s l (hback hl)
  · exact h.past

theorem returned {i : Nat} (h : p.Supervised) (hcall : p.stops[i]? = some (.waiting r))
    (hended : p.monitor.loop? r = none) :
    Supervised { p with stops := p.stops.set i (.returned (some r)) } := by
  constructor
  · exact h.current_iff
  · intro s l hl htold
    have hs := h.awaited s l hl htold
    rcases List.getElem?_of_mem hs with ⟨j, hj⟩
    have hij : i ≠ j := by
      intro heq
      subst heq
      rw [hcall] at hj
      cases hj
      have hloop : p.monitor.loop? r = some l := hl
      rw [hended] at hloop
      cases hloop
    exact List.mem_of_getElem? ((List.getElem?_set_ne hij).trans hj)
  · intro s hs
    rcases List.mem_or_eq_of_mem_set hs with hold | hnew
    · exact h.ended s hold
    · cases hnew
      exact hended
  · exact h.known
  · intro s hs
    rcases hs with hs | hs
    · rcases List.mem_or_eq_of_mem_set hs with hold | hnew
      · exact h.past s (Or.inl hold)
      · cases hnew
        exact h.past r (Or.inr (List.mem_of_getElem? hcall))
    · rcases List.mem_or_eq_of_mem_set hs with hold | hnew
      · exact h.past s (Or.inr hold)
      · cases hnew

theorem nothingToStop (h : p.Supervised) :
    Supervised { p with stops := p.stops ++ [.returned none] } := by
  have hmem : forall {c : StopCall}, c ∈ p.stops ++ [.returned none] -> c ≠ .returned none ->
      c ∈ p.stops := by
    intro c hc hne
    rcases List.mem_append.mp hc with hold | hnew
    · exact hold
    · exact absurd (List.mem_singleton.mp hnew) hne
  constructor
  · exact h.current_iff
  · intro s l hl htold
    exact List.mem_append_left _ (h.awaited s l hl htold)
  · intro s hs
    exact h.ended s (hmem hs (by simp))
  · exact h.known
  · intro s hs
    rcases hs with hs | hs
    · exact h.past s (Or.inl (hmem hs (by simp)))
    · exact h.past s (Or.inr (hmem hs (by simp)))

theorem step {a : PatrolAction} (h : p.Supervised) (hstep : p.step a = some q) :
    q.Supervised := by
  cases a with
  | start =>
      cases hstep
      exact h.start
  | stop =>
      unfold Patrol.step Monitor.stop at hstep
      cases hcurrent : p.monitor.current with
      | some r =>
          simp only [hcurrent] at hstep
          cases hstep
          exact h.letGo hcurrent
      | none =>
          simp only [hcurrent] at hstep
          cases hstep
          exact h.nothingToStop
  | cycleEnded r brokeDown =>
      rcases Option.ite_none_right_eq_some.mp hstep with ⟨_, heq⟩
      cases heq
      let pause := if brokeDown then p.config.errorPause else p.config.checkInterval
      have hsame : forall l : MonitorLoop,
          ({ l with stage := .pausing pause } : MonitorLoop).stopping = l.stopping := fun _ => rfl
      exact h.modify hsame r
  | pauseEnded r =>
      rcases Option.ite_none_right_eq_some.mp hstep with ⟨_, heq⟩
      cases heq
      have hsame : forall l : MonitorLoop, ({ l with stage := .cycling } : MonitorLoop).stopping
          = l.stopping := fun _ => rfl
      exact h.modify hsame r
  | leave r =>
      rcases Option.ite_none_right_eq_some.mp hstep with ⟨hpaused, heq⟩
      cases heq
      exact h.remove (Bool.and_eq_true_iff.mp hpaused).2
  | returned i =>
      unfold Patrol.step at hstep
      simp only at hstep
      split at hstep
      · rename_i r hcall
        rcases Option.ite_none_right_eq_some.mp hstep with ⟨hended, heq⟩
        cases heq
        exact h.returned hcall hended
      · cases hstep

end Supervised

variable {config : HealthConfig} {log : Log}

theorem Run.supervised (hrun : Run (ofConfig config) log p) : p.Supervised :=
  Trace.invariant Supervised.step hrun (supervised_ofConfig config)

/-- A loop that has not ended is the one that the monitor knows, or a call waits for its end. -/
theorem Run.current_or_awaited (hrun : Run (ofConfig config) log p)
    (hloop : p.monitor.loop? r = some l) : p.monitor.current = some r ∨ .waiting r ∈ p.stops := by
  have hsupervised : p.Supervised := hrun.supervised
  cases htold : l.stopping with
  | false =>
      exact Or.inl ((hsupervised.current_iff r).mpr ⟨l, hloop, htold⟩)
  | true =>
      exact Or.inr (hsupervised.awaited r l hloop htold)

/-- When all calls to stop have returned, no loop is left but the one that was started since. -/
theorem Run.loop?_of_returned (hrun : Run (ofConfig config) log p)
    (hreturned : forall r, .waiting r ∉ p.stops) :
    p.monitor.loop? r ≠ none <-> p.monitor.current = some r := by
  constructor
  · intro hsome
    rcases Option.ne_none_iff_exists'.mp hsome with ⟨l, hloop⟩
    rcases hrun.current_or_awaited hloop with hcurrent | hwaiting
    · exact hcurrent
    · exact absurd hwaiting (hreturned r)
  · intro hcurrent
    rcases ((Run.supervised hrun).current_iff r).mp hcurrent with ⟨l, hloop, _⟩
    rw [hloop]
    exact Option.some_ne_none l

/-- While a call to stop waits for the end of a cycle, another one returns although the loop has not
ended, and a second loop can be started. -/
theorem two_loops_while_stopping : exists log p, Run (ofConfig .standard) log p ∧
    log.map (fun e => e.2) = [.start, .stop, .stop, .start] ∧
      p.stops = [.waiting 0, .returned none] ∧ p.monitor.loop? 0 ≠ none ∧
        p.monitor.loop? 1 ≠ none := by
  have hany : (Trace.compute Patrol.step (ofConfig .standard) [.start, .stop, .stop, .start]).any
      (fun p => p.stops = [.waiting 0, .returned none] ∧ p.monitor.loop? 0 ≠ none ∧
        p.monitor.loop? 1 ≠ none) = true := by
    decide +kernel
  rcases Trace.exists_of_any hany with ⟨log, p, hrun, hactions, hend⟩
  exact ⟨log, p, hrun, hactions, of_decide_eq_true hend⟩

end Patrol
end PoolHealth
