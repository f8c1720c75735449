import PoolHealth.Proofs.Pool.Lines
import PoolHealth.Proofs.Pool.Phases

/-!
# Shutting down that is cut off

Whoever shuts a pool down closes the slots for good, and then the idle connections one by one.  If
the request is dropped in the middle of that the pool can be set up again, and it is ready; but
nobody can have a slot of it any more.  There is no other way to a pool that is ready although its
slots are closed.
-/

namespace PoolHealth

open ConnectionPool Token

variable {law : Law} {now : Instant} {p q : ConnectionPool} {A B F : Multiset Token}

/-- What becomes of closed slots: nothing changes, or the pool gets another phase while nobody
closes it, or slots are closed by somebody who closes the pool, or somebody is dropped. -/
theorem Change.closed_cases (h : Change law now p A q B) (hp : Phased p (A + F)) :
    (q.slots.closed = p.slots.closed ∧ q.phase = p.phase ∧
        tally draining B = tally draining A) ∨
      (q.slots.closed = p.slots.closed ∧ p.phase ≠ .closed ∧ tally draining (A + F) = 0) ∨
      ((p.slots.closed = true -> q.slots.closed = true) ∧
        (q.phase = .closed ∨ tally draining B ≠ 0)) ∨
      (q.slots.closed = p.slots.closed ∧ law.drops) := by
  have hlock := hp.lock
  rw [tally_add] at hlock
  have halone : tally locks A = 1 -> tally draining A = 0 -> tally draining (A + F) = 0 := by
    intro hholder hnot
    rw [tally_add, hnot, (Phased.alone (F := F) (by omega)).2.2]
  cases h with
  | warm hready hclosed =>
      exact Or.inr (Or.inl ⟨rfl, hclosed, halone (by simp) (by simp)⟩)
  | shut hunused hclosed =>
      exact Or.inr (Or.inl ⟨rfl, hclosed, halone (by simp) (by simp)⟩)
  | warmed | cooled =>
      have hphase : p.phase = .initializing := hp.warming (by simp)
      refine Or.inr (Or.inl ⟨?_, ?_, halone (by simp) (by simp)⟩)
      · simp [WarmUp.furnish_eq, setPhase]
      · rw [hphase]
        intro hclosed
        cases hclosed
  | closeUnused =>
      exact Or.inr (Or.inr (Or.inl ⟨fun _ => rfl, Or.inl rfl⟩))
  | drain =>
      exact Or.inr (Or.inr (Or.inl ⟨fun _ => rfl, Or.inr (by simp)⟩))
  | drained =>
      exact Or.inr (Or.inr (Or.inl ⟨fun h => h, Or.inl rfl⟩))
  | abandonLock u hdrops =>
      rw [releaseLock_eq]
      exact Or.inr (Or.inr (Or.inr ⟨rfl, hdrops⟩))
  | unlock =>
      rw [releaseLock_eq]
      exact Or.inl ⟨rfl, rfl, rfl⟩
  | leaveLockLine t =>
      rw [leaveLockQueue_eq]
      exact Or.inl ⟨rfl, rfl, rfl⟩
  | take hready htaken =>
      rcases Semaphore.not_closed_of_taken htaken with ⟨hopen, hopen'⟩
      exact Or.inl ⟨hopen'.trans hopen.symm, rfl, by simp⟩
  | reserve hmin hmax htaken =>
      rcases Semaphore.not_closed_of_taken htaken with ⟨hopen, hopen'⟩
      exact Or.inl ⟨hopen'.trans hopen.symm, rfl, by simp⟩
  | handBack | forget | openFailed | refillFailed | landIdle =>
      rw [releaseSlot_eq]
      exact Or.inl ⟨Semaphore.closed_release _, rfl, by simp⟩
  | giveBack | strand =>
      rw [giveBack_eq]
      exact Or.inl ⟨Semaphore.closed_release _, rfl, by simp⟩
  | leaveLine t =>
      rw [leaveSlotQueue_eq]
      exact Or.inl ⟨Semaphore.closed_leave _ _, rfl, rfl⟩
  | evict =>
      rw [takeExpired_eq]
      exact Or.inl ⟨rfl, rfl, by simp [-List.map_map]⟩
  | _ =>
      exact Or.inl ⟨rfl, rfl, by simp [-List.map_map]⟩

def Barred (p : ConnectionPool) (held : Multiset Token) : Prop :=
  p.slots.closed = true -> p.phase = .closed ∨ tally draining held ≠ 0

theorem Barred.change (hdrops : ¬law.drops) (h : Change law now p A q B)
    (hphased : Phased p (A + F)) (hp : Barred p (A + F)) : Barred q (B + F) := by
  intro hclosed
  rcases h.closed_cases hphased with ⟨hsame, hphase, htally⟩ | ⟨hsame, hphase, htally⟩ |
    ⟨_, hend⟩ | ⟨_, hdropped⟩
  · rw [hphase, tally_add, htally, ← tally_add]
    exact hp (hsame ▸ hclosed)
  · rcases hp (hsame ▸ hclosed) with hover | hnow
    · exact absurd hover hphase
    · exact absurd htally hnow
  · rcases hend with hover | hnow
    · exact Or.inl hover
    · rw [tally_add]
      exact Or.inr (by omega)
  · exact absurd hdropped hdrops

def Party.shutsDown : Party -> Bool
  | caller (.shutDown .awaitingMaintenance) | caller (.shutDown (.closing _ _ _)) => true
  | _ => false

namespace Traffic

variable {c : PoolConfig} {s t : Traffic} {a : Action} {log : Log} {x : Party}

/-- A request to shut the pool down is dropped while it closes the idle connections. -/
def cutsOff (e : Traffic × Action) : Bool :=
  match e.2 with
  | .drop i =>
      match e.1.parties[i]? with
      | some (.caller (.shutDown (.closing ..))) => true
      | _ => false
  | _ => false

theorem phased_step (hs : s.Settled) (hphased : Phased s.pool s.held) (hstep : s.step a = some t) :
    Phased t.pool t.held := by
  have hchanges : Changes .any s.now s.pool (s.held + raws a.arrivals) t.pool t.held :=
    changes_step hs (fun _ => trivial) (fun _ _ => trivial) hstep
  refine hchanges.invariant Phased.change ?_
  apply hphased.congr <;> simp

theorem abandon_slots (habandon : s.abandon x = some p) :
    p.slots.closed = s.pool.slots.closed ∧ p.phase = s.pool.phase := by
  have hserves : Serves s.pool p -> p.slots.closed = s.pool.slots.closed ∧ p.phase = s.pool.phase :=
    fun h => ⟨h.slots.closed, h.phase⟩
  cases x with
  | caller k =>
      cases habandon
      cases k with
      | acquire k =>
          cases k with
          | queued ticket started =>
              simp only [PoolCall.cancel, Acquire.cancel]
              rw [leaveSlotQueue_eq]
              exact ⟨Semaphore.closed_leave _ _, rfl⟩
          | checkingOut started k =>
              exact hserves (k.serves_cancel s.pool)
      | tryAcquire k =>
          exact hserves (k.serves_cancel s.pool)
      | checkup k =>
          exact hserves (k.serves_cancel s.pool)
      | warmUp k =>
          cases k with
          | queued ticket =>
              simp only [PoolCall.cancel, WarmUp.cancel]
              rw [leaveLockQueue_eq]
              exact ⟨rfl, rfl⟩
          | opening | rollingBack =>
              simp only [PoolCall.cancel, WarmUp.cancel]
              rw [releaseLock_eq]
              exact ⟨rfl, rfl⟩
      | shutDown k =>
          cases k with
          | queued ticket =>
              simp only [PoolCall.cancel, ShutDown.cancel]
              rw [leaveLockQueue_eq]
              exact ⟨rfl, rfl⟩
          | awaitingMaintenance | closing =>
              simp only [PoolCall.cancel, ShutDown.cancel]
              rw [releaseLock_eq]
              exact ⟨rfl, rfl⟩
  | maintainer n m =>
      cases habandon
      exact hserves (m.serves_cancel s.pool)
  | closer d | finisher d =>
      cases habandon
      exact ⟨rfl, rfl⟩
  | borrower l =>
      cases habandon

theorem tally_locks_checkout (k : Checkout) : tally locks (k.stake + k.underway) = 0 := by
  cases k with
  | closingExpired d rest candidate =>
      cases candidate with
      | none | some e =>
          simp [Checkout.stake, Checkout.underway]
  | validating l | closingInvalid d | opening o =>
      simp [Checkout.stake, Checkout.underway]

theorem tally_locks_checkup (k : Checkup) : tally locks (k.stake + k.underway) = 0 := by
  cases k with
  | evicting d rest | refilling o =>
      simp [Checkup.stake, Checkup.underway]
  | probing k =>
      have hnone := tally_locks_checkout k
      rw [tally_add] at hnone
      simp only [Checkup.stake, Checkup.underway, tally_add, tally_singleton, locks]
      omega

theorem tally_shutting_tokens (h : x.shutsDown = false) : tally shutting x.tokens = 0 := by
  have hlocks : tally locks x.tokens = 0 -> tally shutting x.tokens = 0 := by
    intro hnone
    have hle := tally_shutting_le x.tokens
    omega
  cases x with
  | caller k =>
      cases k with
      | acquire k =>
          cases k with
          | queued ticket started =>
              rfl
          | checkingOut started k =>
              exact hlocks (tally_locks_checkout k)
      | tryAcquire k =>
          exact hlocks (tally_locks_checkout k)
      | checkup k =>
          exact hlocks (tally_locks_checkup k)
      | warmUp k =>
          cases k with
          | queued ticket =>
              rfl
          | opening opened o | rollingBack d rest e =>
              simp [Party.tokens, Party.stake, Party.underway, PoolCall.stake, PoolCall.underway,
                WarmUp.stake, WarmUp.underway]
      | shutDown k =>
          cases k with
          | queued ticket =>
              rfl
          | awaitingMaintenance | closing d rest failure =>
              cases h
  | maintainer n m =>
      cases m with
      | resting due =>
          rfl
      | checking due k =>
          exact hlocks (tally_locks_checkup k)
  | borrower l | closer d | finisher d =>
      rfl

theorem tally_draining_tokens
    (h : forall d rest failure, x ≠ .caller (.shutDown (.closing d rest failure))) :
    tally draining x.tokens = 0 := by
  cases hshuts : x.shutsDown with
  | false =>
      have hle := tally_draining_le x.tokens
      have hnone := tally_shutting_tokens hshuts
      omega
  | true =>
      unfold Party.shutsDown at hshuts
      split at hshuts
      · rfl
      · rename_i d rest failure
        exact absurd rfl (h d rest failure)
      · cases hshuts

theorem barred_step (hs : s.Settled) (hphased : Phased s.pool s.held)
    (hbarred : Barred s.pool s.held) (hstep : s.step a = some t)
    (hnot : cutsOff (s, a) = false) : Barred t.pool t.held := by
  by_cases hdrop : exists i, a = .drop i
  · rcases hdrop with ⟨i, rfl⟩
    rcases step_cases hstep with
      ⟨d, hact, _⟩ | ⟨request, hact, _⟩ | ⟨j, r, x, p, xs, hact, _⟩ |
      ⟨j, x, p, hact, hx, habandon, rfl⟩ | ⟨j, background, l, hact, _⟩ | ⟨j, l, hact, _⟩ |
      ⟨j, n, due, hact, _⟩ <;> cases hact
    rcases abandon_slots habandon with ⟨hclosed, hphase⟩
    rcases exists_held_eq hx with ⟨F, hheld, hreplace⟩
    have hnone : tally draining x.tokens = 0 := by
      apply tally_draining_tokens
      rintro d rest failure rfl
      simp [cutsOff, hx] at hnot
    rw [adopt_pool, adopt_held, held_eq]
    intro hafter
    rcases hbarred (hclosed ▸ hafter) with hover | hnow
    · exact Or.inl (hphase.trans hover)
    · right
      rw [hheld, tally_add, hnone] at hnow
      -- Those who are left hold what was not held by the one who is dropped.
      have hrest : Party.stock (s.replace i []).parties + (s.remains + (x.underway + x.remains)) =
          Party.stock [] + F + (x.underway + x.remains) :=
        stock_replace_add (hreplace []) (x.underway + x.remains)
      rw [add_assoc s.remains, hrest]
      simp only [tally_add]
      omega
  · have hchanges : Changes .undisturbed s.now s.pool (s.held + raws a.arrivals) t.pool t.held :=
      changes_step hs (fun _ => trivial) (fun i hi => absurd ⟨i, hi⟩ hdrop) hstep
    have hboth : Phased t.pool t.held ∧ Barred t.pool t.held := by
      refine hchanges.invariant (I := fun p A => Phased p A ∧ Barred p A) ?_ ⟨?_, ?_⟩
      · intro p q A B F hchange hp
        exact ⟨hp.1.change F hchange, Barred.change not_false hchange hp.1 hp.2⟩
      · apply hphased.congr <;> simp
      · intro hclosed
        rw [tally_add]
        rcases hbarred hclosed with hover | hnow
        · exact Or.inl hover
        · exact Or.inr (by omega)
    exact hboth.2

theorem closed_step (hs : s.Settled) (hphased : Phased s.pool s.held) (hstep : s.step a = some t)
    (hclosed : s.pool.slots.closed = true) : t.pool.slots.closed = true := by
  have hchanges : Changes .any s.now s.pool (s.held + raws a.arrivals) t.pool t.held :=
    changes_step hs (fun _ => trivial) (fun _ _ => trivial) hstep
  have hboth : Phased t.pool t.held ∧ t.pool.slots.closed = true := by
    refine hchanges.invariant (I := fun p A => Phased p A ∧ p.slots.closed = true) ?_ ⟨?_, hclosed⟩
    · intro p q A B F hchange hp
      refine ⟨hp.1.change F hchange, ?_⟩
      rcases hchange.closed_cases hp.1 with ⟨hsame, _⟩ | ⟨hsame, _⟩ | ⟨hkept, _⟩ | ⟨hsame, _⟩
      · exact hsame.trans hp.2
      · exact hsame.trans hp.2
      · exact hkept hp.2
      · exact hsame.trans hp.2
    · apply hphased.congr <;> simp
  exact hboth.2

theorem Run.closed (h : Run s log t) (hs : s.Settled) (hphased : Phased s.pool s.held)
    (hclosed : s.pool.slots.closed = true) : t.pool.slots.closed = true := by
  induction h with
  | done s =>
      exact hclosed
  | act hstep _ ih =>
      exact ih (settled_step hs hstep) (phased_step hs hphased hstep)
        (closed_step hs hphased hstep hclosed)

theorem Run.barred (h : Run s log t) (hs : s.Settled) (hphased : Phased s.pool s.held)
    (hbarred : Barred s.pool s.held) (hnot : forall e, e ∈ log -> cutsOff e = false) :
    Barred t.pool t.held := by
  induction h with
  | done s =>
      exact hbarred
  | act hstep _ ih =>
      rw [List.forall_mem_cons] at hnot
      exact ih (settled_step hs hstep) (phased_step hs hphased hstep)
        (barred_step hs hphased hbarred hstep hnot.1) hnot.2

theorem closed_of_cutsOff (h : Run (ofConfig c) log s) (hcut : cutsOff (s, a) = true) :
    s.pool.slots.closed = true := by
  unfold cutsOff at hcut
  split at hcut
  · split at hcut
    · rename_i i hact d rest failure hx
      apply h.phased.draining
      rcases exists_held_eq hx with ⟨F, hheld, _⟩
      have htokens : ({.lock .draining} + doomed rest + {.retired d .passed} + F : Multiset Token) =
          s.held := hheld.symm
      rw [← htokens]
      simp
    · cases hcut
  · cases hcut

/-- A pool that is ready has closed slots if and only if a request to shut it down was dropped
while it closed the idle connections. -/
theorem Run.closed_iff_cut_off (h : Run (ofConfig c) log t) (hready : t.pool.isReady = true) :
    t.pool.slots.closed = true <-> exists e, e ∈ log ∧ cutsOff e = true := by
  have hphase : t.pool.phase = .ready := Orderly.phase_eq_ready hready
  constructor
  · intro hclosed
    by_contra hnone
    have hnot : forall e, e ∈ log -> cutsOff e = false := by
      intro e he
      rw [Bool.eq_false_iff]
      exact fun hcut => hnone ⟨e, he, hcut⟩
    have hbarred := h.barred (settled_ofConfig c) (.ofConfig c) nofun hnot
    rcases hbarred hclosed with hover | hnow
    · rw [hphase] at hover
      cases hover
    · have hshutting := tally_draining_le t.held
      have hphase' := h.phased.shutting (by omega)
      rw [hphase] at hphase'
      cases hphase'
  · rintro ⟨e, he, hcut⟩
    rcases h.split he with ⟨before, later, u, _, hbefore, hstep, hlater⟩
    have hs := hbefore.settled (settled_ofConfig c)
    have hclosed := closed_of_cutsOff hbefore hcut
    exact hlater.closed (settled_step hs hstep) (phased_step hs hbefore.phased hstep)
      (closed_step hs hbefore.phased hstep hclosed)

end Traffic
end PoolHealth
