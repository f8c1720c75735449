import PoolHealth.Proofs.Pool.CallDeeds
import PoolHealth.Proofs.Pool.TrafficChanges

/-!
# When connections were opened

No action changes the date of a connection, and the only new date is the present.  So what is
true of the dates that a pool and its parties know stays true if it is true of the present.  None
of them lies in the future.
-/

namespace PoolHealth

open ConnectionPool

variable {P : Instant -> Prop} {p : ConnectionPool}

def Party.Dated (P : Instant -> Prop) : Party -> Prop
  | caller k => k.Dated P
  | maintainer _ m => m.Dated P
  | borrower l => P l.createdAt
  | closer _ | finisher _ => True

theorem Party.dated_ofProgress {k : Progress PoolCall PoolAnswer} (h : PoolCall.DatedAfter P k) :
    forall x, x ∈ Party.ofProgress k -> x.Dated P := by
  intro x hx
  rcases k with k | a
  · rw [List.mem_singleton.mp hx]
    exact h
  · rcases a with r | healthy | r
    · rcases r with e | l
      · cases hx
      · rw [List.mem_singleton.mp hx]
        exact h l rfl
    · cases hx
    · cases hx

namespace Traffic

variable {s t : Traffic} {a : Action} {log : Log} {c : PoolConfig}

structure Dated (P : Instant -> Prop) (s : Traffic) : Prop where
  pool : s.pool.Dated P
  parties : forall x, x ∈ s.parties -> x.Dated P

theorem Dated.react (h : s.Dated P) (e : PoolEvent) : (s.react e).Dated P := by
  cases e with
  | closeLater c =>
      refine ⟨h.pool, ?_⟩
      intro x hx
      rcases List.mem_append.mp hx with hx | hx
      · exact h.parties x hx
      · rw [List.mem_singleton.mp hx]
        exact trivial
  | maintenanceStarted =>
      refine ⟨h.pool, ?_⟩
      intro x hx
      rcases List.mem_append.mp hx with hx | hx
      · exact h.parties x hx
      · rw [List.mem_singleton.mp hx]
        exact trivial
  | maintenanceStopping | measured r | slotStirred ticket | lockPassed ticket =>
      exact ⟨h.pool, h.parties⟩

theorem dated_adopt (hp : p.Dated P) (hs : forall x, x ∈ s.parties -> x.Dated P) :
    (s.adopt p).Dated P := by
  have hfold : forall (events : List PoolEvent) (u : Traffic), u.Dated P ->
      (events.foldl Traffic.react u).Dated P := by
    intro events
    induction events with
    | nil =>
        intro u hu
        exact hu
    | cons e rest ih =>
        intro u hu
        exact ih (u.react e) (hu.react e)
  exact hfold p.outbox _ ⟨hp, hs⟩

theorem dated_replace {i : Nat} {xs : List Party} (h : forall x, x ∈ s.parties -> x.Dated P)
    (hxs : forall x, x ∈ xs -> x.Dated P) :
    forall x, x ∈ (s.replace i xs).parties -> x.Dated P := by
  intro x hx
  rcases List.mem_append.mp hx with hx | hx
  · rcases List.mem_append.mp hx with hx | hx
    · exact h x (List.mem_of_mem_take hx)
    · exact hxs x hx
  · exact h x (List.mem_of_mem_drop hx)

theorem Dated.proceed (h : s.Dated P) (hnow : P s.now) {x : Party} (hx : x ∈ s.parties)
    {r : Reply} {xs : List Party} (hproceed : s.proceed r x = some (p, xs)) :
    p.Dated P ∧ forall y, y ∈ xs -> y.Dated P := by
  have hdated := h.parties x hx
  rcases proceed_cases hproceed with
    ⟨k, rfl, _, rfl, rfl⟩ | ⟨n, m, rfl, _, _, rfl, rfl⟩ | ⟨c, rfl, _, rfl, rfl⟩ |
    ⟨c, rfl, _, rfl, rfl⟩
  · have hcall := PoolCall.does_step h.pool hnow hdated r
    exact ⟨hcall.deeds.dated h.pool, Party.dated_ofProgress hcall.dated⟩
  · have hround := Maintenance.does_step h.pool hnow hdated r
    refine ⟨hround.deeds.dated h.pool, ?_⟩
    intro y hy
    rw [List.mem_singleton.mp hy]
    exact hround.dated
  · refine ⟨h.pool, ?_⟩
    intro y hy
    rw [List.mem_singleton.mp hy]
    exact trivial
  · refine ⟨h.pool, ?_⟩
    intro y hy
    cases hy

theorem Dated.abandon (h : s.Dated P) {x : Party} (hx : x ∈ s.parties)
    (habandon : s.abandon x = some p) : p.Dated P := by
  have hdated := h.parties x hx
  cases x with
  | caller k =>
      cases habandon
      exact (k.deeds_cancel s.pool hdated).dated h.pool
  | maintainer n m =>
      cases habandon
      exact (m.deeds_cancel s.pool hdated).dated h.pool
  | borrower l =>
      cases habandon
  | closer c | finisher c =>
      cases habandon
      exact h.pool

theorem Dated.step (h : s.Dated P) (hnow : P s.now) (hstep : s.step a = some t) : t.Dated P := by
  rcases step_cases hstep with
    ⟨d, rfl, rfl⟩ | ⟨request, rfl, rfl⟩ | ⟨i, r, x, p, xs, rfl, hx, hproceed, rfl⟩ |
    ⟨i, x, p, rfl, hx, habandon, rfl⟩ | ⟨i, background, l, rfl, hx, rfl⟩ | ⟨i, l, rfl, hx, rfl⟩ |
    ⟨i, n, due, rfl, hx, htold, rfl⟩
  · exact ⟨h.pool, h.parties⟩
  · have hcall := PoolCall.does_start h.pool hnow request
    apply dated_adopt (hcall.deeds.dated h.pool)
    intro x hx
    rcases List.mem_append.mp hx with hx | hx
    · exact h.parties x hx
    · exact Party.dated_ofProgress hcall.dated x hx
  · rcases h.proceed hnow (List.mem_of_getElem? hx) hproceed with ⟨hp, hxs⟩
    exact dated_adopt hp (dated_replace h.parties hxs)
  · exact dated_adopt (h.abandon (List.mem_of_getElem? hx) habandon)
      (dated_replace h.parties (by simp))
  · have hl : P l.createdAt := h.parties _ (List.mem_of_getElem? hx)
    exact dated_adopt (h.pool.giveBack hl s.now background) (dated_replace h.parties (by simp))
  · have hl : P l.createdAt := h.parties _ (List.mem_of_getElem? hx)
    refine ⟨h.pool, dated_replace h.parties ?_⟩
    intro x hx
    rw [List.mem_singleton.mp hx]
    exact hl
  · exact ⟨h.pool, dated_replace h.parties (by simp)⟩

theorem adopt_now (s : Traffic) (p : ConnectionPool) : (s.adopt p).now = s.now :=
  adopt_of_react (fun _ e => by cases e <;> rfl) s p

theorem now_le_of_step (hstep : s.step a = some t) : s.now ≤ t.now := by
  have hnow : s.now ≤ s.now := Nat.le_refl _
  rcases step_cases hstep with
    ⟨d, rfl, rfl⟩ | ⟨request, rfl, rfl⟩ | ⟨i, r, x, p, xs, rfl, hx, hproceed, rfl⟩ |
    ⟨i, x, p, rfl, hx, habandon, rfl⟩ | ⟨i, background, l, rfl, hx, rfl⟩ | ⟨i, l, rfl, hx, rfl⟩ |
    ⟨i, n, due, rfl, hx, htold, rfl⟩
  · exact Nat.le_add_right _ _
  · rw [adopt_now]
    exact hnow
  · rw [adopt_now]
    exact hnow
  · rw [adopt_now]
    exact hnow
  · rw [adopt_now]
    exact hnow
  · exact hnow
  · exact hnow

def Past (s : Traffic) : Prop := forall now, s.now ≤ now -> s.Dated fun d => d ≤ now

theorem past_ofConfig (c : PoolConfig) : (ofConfig c).Past := by
  intro now _
  constructor
  · intro e he
    cases he
  · intro x hx
    cases hx

theorem Past.step (h : s.Past) (hstep : s.step a = some t) : t.Past := by
  intro now hnow
  have hle : s.now ≤ now := Nat.le_trans (now_le_of_step hstep) hnow
  exact (h now hle).step hle hstep

end Traffic
end PoolHealth
