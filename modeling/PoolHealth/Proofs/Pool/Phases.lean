import PoolHealth.Proofs.Pool.Conservation

/-!
# The phases of a pool

Only the holder of the lifecycle lock changes the phase, and there is one such holder at
most.  While a holder sets the pool up or shuts it down the phase says so, and a pool is
not closed before nobody can have a slot any more.

If nothing is dropped the converse is true as well: a pool that is being set up or shut
down has somebody who does it.  In that case nobody has anything of a pool that was not
ready yet.
-/

namespace PoolHealth

open ConnectionPool Token

variable {law : Law} {now : Instant} {p q : ConnectionPool} {A B F : Multiset Token}

/-- The phase of a pool agrees with what the lifecycle lock is held for. -/
structure Phased (p : ConnectionPool) (held : Multiset Token) : Prop where
  lock : p.lifecycle.available + tally locks held = 1
  warming : tally Token.warming held ≠ 0 -> p.phase = .initializing
  shutting : tally Token.shutting held ≠ 0 -> p.phase = .shuttingDown
  draining : tally Token.draining held ≠ 0 -> p.slots.closed = true
  closed : p.phase = .closed -> p.slots.closed = true

namespace Token

theorem tally_warming_le (held : Multiset Token) : tally warming held ≤ tally locks held := by
  apply tally_le_of_le
  intro t
  cases t with
  | lock u =>
      cases u with
      | entering | warming | shutting | draining =>
          simp
  | queued | slot u | lent c | forgotten c | retired c f | raw c f | checking =>
      simp

theorem tally_shutting_le (held : Multiset Token) : tally shutting held ≤ tally locks held := by
  apply tally_le_of_le
  intro t
  cases t with
  | lock u =>
      cases u with
      | entering | warming | shutting | draining =>
          simp
  | queued | slot u | lent c | forgotten c | retired c f | raw c f | checking =>
      simp

theorem tally_draining_le (held : Multiset Token) : tally draining held ≤ tally shutting held := by
  apply tally_le_of_le
  intro t
  cases t with
  | lock u =>
      cases u with
      | entering | warming | shutting | draining =>
          simp
  | queued | slot u | lent c | forgotten c | retired c f | raw c f | checking =>
      simp

end Token

namespace Phased

theorem ofConfig (c : PoolConfig) : Phased (ConnectionPool.ofConfig c) 0 where
  lock := rfl
  warming := fun h => absurd rfl h
  shutting := fun h => absurd rfl h
  draining := fun h => absurd rfl h
  closed := fun h => nomatch h

theorem congr (h : Phased p A) (hphase : q.phase = p.phase)
    (hclosed : q.slots.closed = p.slots.closed)
    (havailable : q.lifecycle.available = p.lifecycle.available)
    (hlocks : tally locks B = tally locks A)
    (hwarming : tally Token.warming B = tally Token.warming A)
    (hshutting : tally Token.shutting B = tally Token.shutting A)
    (hdraining : tally Token.draining B = tally Token.draining A) : Phased q B where
  lock := by rw [havailable, hlocks, h.lock]
  warming := by rw [hphase, hwarming]; exact h.warming
  shutting := by rw [hphase, hshutting]; exact h.shutting
  draining := by rw [hclosed, hdraining]; exact h.draining
  closed := by rw [hphase, hclosed]; exact h.closed

theorem alone (hlocks : tally locks F = 0) :
    tally Token.warming F = 0 ∧ tally Token.shutting F = 0 ∧ tally Token.draining F = 0 := by
  have hwarming := tally_warming_le F
  have hshutting := tally_shutting_le F
  have hdraining := tally_draining_le F
  omega

/-- Somebody holds the lock, nobody else does, and the phase says what it is held for. -/
theorem of_holder {u : LockUse} (hlock : q.lifecycle.available + tally locks ({.lock u} + F) = 1)
    (hwarming : u = .warming -> q.phase = .initializing)
    (hshutting : u = .shutting ∨ u = .draining -> q.phase = .shuttingDown)
    (hdraining : u = .draining -> q.slots.closed = true)
    (hclosed : q.phase = .closed -> q.slots.closed = true) : Phased q ({.lock u} + F) := by
  have hothers : tally locks F = 0 := by
    simp at hlock
    omega
  rcases alone hothers with ⟨hnowarming, hnoshutting, hnodraining⟩
  constructor
  · exact hlock
  · intro hsome
    apply hwarming
    cases u with
    | warming =>
        rfl
    | entering | shutting | draining =>
        simp [hnowarming] at hsome
  · intro hsome
    apply hshutting
    cases u with
    | shutting =>
        exact Or.inl rfl
    | draining =>
        exact Or.inr rfl
    | entering | warming =>
        simp [hnoshutting] at hsome
  · intro hsome
    apply hdraining
    cases u with
    | draining =>
        rfl
    | entering | warming | shutting =>
        simp [hnodraining] at hsome
  · exact hclosed

theorem others_of_lock {u : LockUse} (h : Phased p ({.lock u} + F)) : tally locks F = 0 := by
  have hlock := h.lock
  simp at hlock
  omega

theorem of_no_holder (havailable : q.lifecycle.available = 1) (hnobody : tally locks F = 0)
    (hclosed : q.phase = .closed -> q.slots.closed = true) : Phased q F := by
  rcases alone hnobody with ⟨hnowarming, hnoshutting, hnodraining⟩
  constructor
  · rw [havailable, hnobody]
  · exact absurd hnowarming
  · exact absurd hnoshutting
  · exact absurd hnodraining
  · exact hclosed

theorem change (F : Multiset Token) (h : Change law now p A q B) (hp : Phased p (A + F)) :
    Phased q (B + F) := by
  have hbefore := hp
  rcases hp with ⟨hlock, hwarming, hshutting, hdraining, hclosed⟩
  have hlock' : q.lifecycle.available + tally locks (B + F) = 1 := by
    have hsame := h.locks_eq
    rw [tally_add] at hlock ⊢
    omega
  cases h with
  -- The lock is taken, used or given back, and nobody else has it.
  | lock htaken | calledForLock hturn =>
      exact of_holder hlock' nofun (by simp) nofun hclosed
  | warm hready hnot =>
      exact of_holder hlock' (fun _ => rfl) (by simp) nofun nofun
  | warmed | cooled =>
      exact of_holder hlock' nofun (by simp) nofun nofun
  | shut =>
      exact of_holder hlock' nofun (fun _ => rfl) nofun nofun
  | tellMaintenance =>
      exact of_holder hlock' nofun (fun _ => hshutting (by simp)) nofun hclosed
  | drain =>
      rw [add_assoc] at hlock' ⊢
      exact of_holder hlock' nofun (fun _ => hshutting (by simp)) (fun _ => rfl) (fun _ => rfl)
  | closeUnused =>
      exact of_holder hlock' nofun (by simp) nofun (fun _ => rfl)
  | drained =>
      exact of_holder hlock' nofun (by simp) nofun (fun _ => hdraining (by simp))
  | unlock | abandonLock =>
      have hnobody := hbefore.others_of_lock
      rw [releaseLock_eq] at hlock' ⊢
      rw [zero_add] at hlock' ⊢
      exact of_no_holder (by omega) hnobody hclosed
  | lineForLock =>
      exact hbefore.congr rfl rfl rfl rfl rfl rfl rfl
  | leaveLockLine t =>
      rw [leaveLockQueue_eq]
      exact hbefore.congr rfl rfl (Semaphore.available_leave _ _) rfl rfl rfl rfl
  -- Nobody needs the lock.
  | take hready htaken =>
      rcases Semaphore.not_closed_of_taken htaken with ⟨hopen, hopen'⟩
      refine hbefore.congr rfl (hopen'.trans hopen.symm) rfl ?_ ?_ ?_ ?_ <;> simp
  | reserve hmin hmax htaken =>
      rcases Semaphore.not_closed_of_taken htaken with ⟨hopen, hopen'⟩
      refine hbefore.congr rfl (hopen'.trans hopen.symm) rfl ?_ ?_ ?_ ?_ <;> simp
  | handBack | forget | openFailed | refillFailed | landIdle =>
      rw [releaseSlot_eq]
      refine hbefore.congr rfl (Semaphore.closed_release _) rfl ?_ ?_ ?_ ?_ <;> simp
  | giveBack | strand =>
      rw [giveBack_eq]
      refine hbefore.congr rfl (Semaphore.closed_release _) rfl ?_ ?_ ?_ ?_ <;> simp
  | leaveLine t =>
      rw [leaveSlotQueue_eq]
      exact hbefore.congr rfl (Semaphore.closed_leave _ _) rfl rfl rfl rfl rfl
  | found | foundNone | openAtOnce =>
      refine hbefore.congr rfl rfl rfl ?_ ?_ ?_ ?_ <;> simp [-List.map_map]
  | evict =>
      rw [takeExpired_eq]
      refine hbefore.congr rfl rfl rfl ?_ ?_ ?_ ?_ <;> simp [-List.map_map]
  | line | called | unline | openLate | settle | land | reject | note | hand | handRaw | lose
  | loseRaw | check | checked | error | hit | wait | exhaustion | verdict =>
      refine hbefore.congr rfl rfl rfl ?_ ?_ ?_ ?_ <;> simp

end Phased

/-- If nothing is dropped, a phase that says that somebody sets the pool up or shuts it
down is right, and a pool that was never ready is empty and has no guests. -/
structure Orderly (p : ConnectionPool) (held : Multiset Token) : Prop where
  owned : tally unowned held = 0
  initializing : p.phase = .initializing -> tally warming held ≠ 0
  shuttingDown : p.phase = .shuttingDown -> tally shutting held ≠ 0
  unused : p.phase = .uninitialized ∨ p.phase = .initializing ->
    tally guests held = 0 ∧ p.idle = []

namespace Orderly

theorem ofConfig (c : PoolConfig) : Orderly (ConnectionPool.ofConfig c) 0 where
  owned := rfl
  initializing := fun h => nomatch h
  shuttingDown := fun h => nomatch h
  unused := fun _ => ⟨rfl, rfl⟩

theorem keep (h : Orderly p A) (hphase : q.phase = p.phase)
    (howned : tally unowned B = tally unowned A) (hwarming : tally warming B = tally warming A)
    (hshutting : tally shutting B = tally shutting A)
    (hunused : p.phase = .uninitialized ∨ p.phase = .initializing -> tally guests A = 0 ->
      p.idle = [] -> tally guests B = 0 ∧ q.idle = []) : Orderly q B where
  owned := by rw [howned, h.owned]
  initializing := by rw [hphase, hwarming]; exact h.initializing
  shuttingDown := by rw [hphase, hshutting]; exact h.shuttingDown
  unused := by
    intro hq
    rw [hphase] at hq
    rcases h.unused hq with ⟨hguests, hidle⟩
    exact hunused hq hguests hidle

theorem keep_idle (h : Orderly p A) (hphase : q.phase = p.phase) (hidle : q.idle = p.idle)
    (howned : tally unowned B = tally unowned A) (hwarming : tally warming B = tally warming A)
    (hshutting : tally shutting B = tally shutting A)
    (hguests : tally guests B ≤ tally guests A) : Orderly q B := by
  apply h.keep hphase howned hwarming hshutting
  intro _ hnobody hnone
  rw [hnobody] at hguests
  exact ⟨Nat.le_zero.mp hguests, hidle.trans hnone⟩

theorem phase_eq_ready (h : p.isReady = true) : p.phase = .ready := by
  unfold isReady at h
  exact eq_of_beq h

/-- Whoever holds the lock and has not begun anything finds the pool at rest. -/
theorem at_rest (hphased : Phased p ({.lock .entering} + F))
    (h : Orderly p ({.lock .entering} + F)) :
    p.phase ≠ .initializing ∧ p.phase ≠ .shuttingDown := by
  rcases Phased.alone hphased.others_of_lock with ⟨hnowarming, hnoshutting, _⟩
  constructor
  · intro hphase
    have hsome := h.initializing hphase
    simp [hnowarming] at hsome
  · intro hphase
    have hsome := h.shuttingDown hphase
    simp [hnoshutting] at hsome

theorem change (hdrops : ¬law.drops) (h : Change law now p A q B) (hphased : Phased p (A + F))
    (hp : Orderly p (A + F)) : Orderly q (B + F) := by
  have hbefore := hp
  rcases hp with ⟨howned, hinitializing, hshuttingDown, hunused⟩
  cases h with
  -- Nothing is dropped.
  | forget | lose | loseRaw | abandonLock =>
      contradiction
  -- The lock is used, and nobody else has it.
  | warm hready hclosed =>
      rcases at_rest hphased hbefore with ⟨hnotWarming, hnotShutting⟩
      have hphase : p.phase = .uninitialized := by
        cases hphase : p.phase with
        | uninitialized =>
            rfl
        | initializing | shuttingDown | ready | closed =>
            contradiction
      have hothers := hphased.others_of_lock
      rcases Phased.alone hothers with ⟨hnowarming, hnoshutting, _⟩
      rcases hunused (Or.inl hphase) with ⟨hguests, hidle⟩
      constructor <;> simp_all [setPhase]
  | cooled =>
      have hphase : p.phase = .initializing := by
        apply hphased.warming
        simp
      rcases hunused (Or.inr hphase) with ⟨hguests, hidle⟩
      constructor <;> simp_all [setPhase]
  | drain =>
      have hphase : p.phase = .shuttingDown := by
        apply hphased.shutting
        simp
      constructor <;> simp_all [-List.map_map, closeSlots, takeAllIdle, recordClosures]
  | warmed | shut | closeUnused | drained =>
      constructor <;>
        simp_all [setPhase, closeSlots, WarmUp.furnish_eq]
  -- The pool is ready, and there may be guests.
  | take hready | line hready | check hready =>
      have hphase := phase_eq_ready hready
      refine hbefore.keep rfl ?_ ?_ ?_ ?_ <;> simp [hphase]
  -- A guest is there already.
  | called | unline | openLate | settle | found | foundNone | openAtOnce | land | reject
  | reserve =>
      refine hbefore.keep rfl ?_ ?_ ?_ ?_ <;> simp [-List.map_map]
  | leaveLine t =>
      rw [leaveSlotQueue_eq]
      refine hbefore.keep rfl ?_ ?_ ?_ ?_ <;> simp
  | handBack | openFailed | refillFailed | landIdle =>
      rw [releaseSlot_eq]
      refine hbefore.keep rfl ?_ ?_ ?_ ?_ <;> simp
  | giveBack | strand =>
      rw [giveBack_eq]
      refine hbefore.keep rfl ?_ ?_ ?_ ?_ <;> simp
  | evict =>
      rw [takeExpired_eq]
      refine hbefore.keep rfl ?_ ?_ ?_ ?_ <;> simp [-List.map_map]
  -- Nobody needs to be a guest.
  | note | hand | handRaw | checked | error | hit | wait | exhaustion | verdict | lock | lineForLock
  | calledForLock | tellMaintenance =>
      refine hbefore.keep_idle rfl rfl ?_ ?_ ?_ ?_ <;> simp
  | leaveLockLine t =>
      rw [leaveLockQueue_eq]
      refine hbefore.keep_idle rfl rfl ?_ ?_ ?_ ?_ <;> simp
  | unlock =>
      rw [releaseLock_eq]
      refine hbefore.keep_idle rfl rfl ?_ ?_ ?_ ?_ <;> simp

end Orderly

namespace Traffic

theorem Run.phased {c : PoolConfig} {t : Traffic} {log : Log} (h : Run (ofConfig c) log t) :
    Phased t.pool t.held := by
  refine h.keeps .any Phased.change ?_ (fun e _ => admits_any e) (settled_ofConfig c)
    (Phased.ofConfig c)
  intro p A cs hp
  apply hp.congr <;> simp

theorem admits_of_undisturbed {log : Log} (h : Undisturbed log) :
    forall e, e ∈ log -> Admits .undisturbed e := by
  intro e he
  exact ⟨fun _ => trivial, fun i hdrop => absurd hdrop (h e he i)⟩

/-- What is in order stays so as long as nothing is dropped. -/
theorem Run.keeps_order {s t : Traffic} {log : Log} (h : Run s log t)
    (hundisturbed : Undisturbed log) (hs : s.Settled)
    (horder : Phased s.pool s.held ∧ Orderly s.pool s.held) :
    Phased t.pool t.held ∧ Orderly t.pool t.held := by
  refine h.keeps .undisturbed (I := fun p A => Phased p A ∧ Orderly p A) ?_ ?_
    (admits_of_undisturbed hundisturbed) hs horder
  · intro now p q A B F hchange hp
    exact ⟨Phased.change F hchange hp.1, Orderly.change not_false hchange hp.1 hp.2⟩
  · intro p A cs hp
    constructor
    · apply hp.1.congr <;> simp
    · apply hp.2.keep <;> simp_all

end Traffic
end PoolHealth
