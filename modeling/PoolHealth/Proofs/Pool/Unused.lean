import PoolHealth.Proofs.Pool.Cutoff
import PoolHealth.Proofs.Pool.Lifecycle

/-!
# Pools that were never ready

Before a pool is ready for the first time nothing is idle in it and nothing has ever been counted
but errors, however often somebody tried to set it up.  The one way back is to shut a pool down and
to drop that request in the middle: what is left of the pool can be set up again.
-/

namespace PoolHealth

open ConnectionPool Token

variable {law : Law} {now : Instant} {p q : ConnectionPool} {A B F : Multiset Token}

structure Unused (p : ConnectionPool) : Prop where
  idle : p.idle = []
  counted : p.stats.idle = 0
  active : p.stats.active = 0
  total : p.stats.total = 0
  peak : p.stats.peak = 0
  creations : p.stats.creations = 0
  closures : p.stats.closures = 0

namespace Unused

theorem ofConfig (c : PoolConfig) : Unused (.ofConfig c) := ⟨rfl, rfl, rfl, rfl, rfl, rfl, rfl⟩

theorem of_same (h : Unused p)
    (hsame :
      (q.idle, q.stats.idle, q.stats.active, q.stats.total, q.stats.peak, q.stats.creations,
          q.stats.closures) =
        (p.idle, p.stats.idle, p.stats.active, p.stats.total, p.stats.peak, p.stats.creations,
          p.stats.closures)) :
    Unused q := by
  simp only [Prod.mk.injEq] at hsame
  rcases hsame with ⟨hidle, hcounted, hactive, htotal, hpeak, hcreations, hclosures⟩
  exact ⟨hidle.trans h.idle, hcounted.trans h.counted, hactive.trans h.active, htotal.trans h.total,
    hpeak.trans h.peak, hcreations.trans h.creations, hclosures.trans h.closures⟩

end Unused

/-- A pool that was not ready yet is unused, and a pool is shut down by somebody. -/
structure Early (p : ConnectionPool) (held : Multiset Token) : Prop where
  shutting : p.phase = .shuttingDown -> tally Token.shutting held ≠ 0
  unused : p.phase.isEarly = true -> tally guests held = 0 ∧ Unused p

namespace Early

theorem ofConfig (c : PoolConfig) : Early (.ofConfig c) 0 where
  shutting := fun h => nomatch h
  unused := fun _ => ⟨rfl, .ofConfig c⟩

theorem keep (h : Early p A) (hphase : q.phase = p.phase)
    (hshutting : tally Token.shutting B = tally Token.shutting A)
    (hunused : tally guests A = 0 -> Unused p -> tally guests B = 0 ∧ Unused q) : Early q B where
  shutting := by rw [hphase, hshutting]; exact h.shutting
  unused := by
    intro hq
    rw [hphase] at hq
    rcases h.unused hq with ⟨hguests, hp⟩
    exact hunused hguests hp

theorem keep_counts (h : Early p A) (hphase : q.phase = p.phase)
    (hshutting : tally Token.shutting B = tally Token.shutting A)
    (hguests : tally guests B = tally guests A)
    (hsame : Unused p -> Unused q) : Early q B :=
  h.keep hphase hshutting fun hnone hp => ⟨hguests.trans hnone, hsame hp⟩

theorem of_ready (hphase : q.phase = .ready) : Early q B where
  shutting := by rw [hphase]; nofun
  unused := by rw [hphase]; nofun

theorem of_shuttingDown (hphase : q.phase = .shuttingDown)
    (hsome : tally Token.shutting B ≠ 0) : Early q B where
  shutting := fun _ => hsome
  unused := by rw [hphase]; nofun

theorem change (hdrops : ¬law.drops) (h : Change law now p A q B) (hphased : Phased p (A + F))
    (hp : Early p (A + F)) : Early q (B + F) := by
  have hbefore := hp
  rcases hp with ⟨hshutting, hunused⟩
  cases h with
  | forget | lose | loseRaw | abandonLock =>
      contradiction
  -- The phase is changed by whoever holds the lock, and nobody else holds it.
  | warm hready hclosed =>
      have hnoshutting := (Phased.alone hphased.others_of_lock).2.1
      have hearly : p.phase.isEarly = true := by
        cases hphase : p.phase with
        | uninitialized | initializing =>
            rfl
        | shuttingDown =>
            simp [hnoshutting] at hshutting
            contradiction
        | ready | closed =>
            contradiction
      rcases hunused hearly with ⟨hguests, hp⟩
      refine ⟨nofun, fun _ => ⟨?_, hp.of_same rfl⟩⟩
      simpa using hguests
  | cooled =>
      have hphase : p.phase = .initializing := hphased.warming (by simp)
      rcases hunused (by rw [hphase]; rfl) with ⟨hguests, hp⟩
      refine ⟨nofun, fun _ => ⟨?_, hp.of_same rfl⟩⟩
      simpa using hguests
  | shut =>
      exact of_shuttingDown rfl (by simp)
  | drain =>
      exact of_shuttingDown (hphased.shutting (by simp)) (by simp)
  | warmed =>
      exact of_ready (by rw [WarmUp.furnish_eq])
  | closeUnused | drained =>
      exact ⟨nofun, nofun⟩
  -- The pool is ready.
  | take hready | line hready | check hready =>
      exact of_ready (Orderly.phase_eq_ready hready)
  -- A guest is there already.
  | called | unline | openLate | settle | found | foundNone | openAtOnce | land | reject
  | reserve | checked =>
      refine hbefore.keep rfl ?_ ?_ <;> simp [-List.map_map]
  | leaveLine t =>
      rw [leaveSlotQueue_eq]
      refine hbefore.keep rfl ?_ ?_ <;> simp
  | handBack | openFailed | refillFailed | landIdle =>
      rw [releaseSlot_eq]
      refine hbefore.keep rfl ?_ ?_ <;> simp
  | giveBack | strand =>
      rw [giveBack_eq]
      refine hbefore.keep rfl ?_ ?_ <;> simp
  | evict =>
      refine hbefore.keep (by rw [takeExpired_eq]; rfl) ?_ ?_ <;> simp
  -- What happens is neither counted nor does it concern idle connections.
  | unlock =>
      rw [releaseLock_eq]
      exact hbefore.keep_counts rfl (by simp) (by simp) fun hp => hp.of_same rfl
  | leaveLockLine t =>
      rw [leaveLockQueue_eq]
      exact hbefore.keep_counts rfl rfl rfl fun hp => hp.of_same rfl
  | note | hand | handRaw | error | hit | wait | exhaustion | verdict | lock | lineForLock
  | calledForLock | tellMaintenance =>
      exact hbefore.keep_counts rfl (by simp) (by simp) fun hp => hp.of_same rfl

end Early

/-!
## Whoever is dropped
-/

theorem Checkout.guests_stake (k : Checkout) : tally guests k.stake ≠ 0 := by
  cases k with
  | closingExpired d rest candidate =>
      cases candidate with
      | none | some e =>
          simp [stake]
  | validating l | closingInvalid d | opening o =>
      simp [stake]

theorem Checkup.guests_stake (k : Checkup) : tally guests k.stake ≠ 0 := by
  cases k with
  | evicting d rest | refilling o | probing k =>
      simp [stake]

namespace Party

variable {x : Party}

theorem guests_leftovers (x : Party) : tally guests (x.underway + x.remains) = 0 := by
  have hcheckout : forall k : Checkout, tally guests (k.underway + k.remains) = 0 := by
    intro k
    cases k with
    | closingExpired d rest candidate =>
        cases candidate with
        | none | some e =>
            simp [Checkout.underway, Checkout.remains]
    | validating l | closingInvalid d | opening o =>
        simp [Checkout.underway, Checkout.remains]
  have hcheckup : forall k : Checkup, tally guests (k.underway + k.remains) = 0 := by
    intro k
    cases k with
    | evicting d rest | refilling o =>
        simp [Checkup.underway, Checkup.remains]
    | probing k =>
        exact hcheckout k
  cases x with
  | caller k =>
      cases k with
      | acquire k =>
          cases k with
          | queued ticket started =>
              rfl
          | checkingOut started k =>
              exact hcheckout k
      | tryAcquire k =>
          exact hcheckout k
      | checkup k =>
          exact hcheckup k
      | warmUp k =>
          cases k with
          | queued ticket | opening opened o | rollingBack d rest e =>
              simp [underway, remains, PoolCall.underway, PoolCall.remains, WarmUp.underway,
                WarmUp.remains]
      | shutDown k =>
          cases k with
          | queued ticket | awaitingMaintenance | closing d rest failure =>
              simp [underway, remains, PoolCall.underway, PoolCall.remains, ShutDown.underway,
                ShutDown.remains]
  | maintainer n m =>
      cases m with
      | resting due =>
          rfl
      | checking due k =>
          exact hcheckup k
  | borrower l | closer d | finisher d =>
      simp [underway, remains]

end Party

namespace Traffic

variable {c : PoolConfig} {s t : Traffic} {a : Action} {log : Log} {x : Party}

theorem abandon_of_no_guest (hnone : tally guests x.stake = 0) (habandon : s.abandon x = some p) :
    p.idle = s.pool.idle ∧ p.stats = s.pool.stats := by
  cases x with
  | caller k =>
      cases habandon
      cases k with
      | acquire k =>
          cases k with
          | queued ticket started =>
              simp [Party.stake, PoolCall.stake, Acquire.stake] at hnone
          | checkingOut started k =>
              exact absurd hnone k.guests_stake
      | tryAcquire k =>
          exact absurd hnone k.guests_stake
      | checkup k =>
          exact absurd hnone k.guests_stake
      | warmUp k =>
          cases k with
          | queued ticket =>
              simp only [PoolCall.cancel, WarmUp.cancel]
              rw [leaveLockQueue_eq]
              exact ⟨rfl, rfl⟩
          | opening | rollingBack =>
              simp only [PoolCall.cancel, WarmUp.cancel]
              rw [releaseLock_eq]
              exact ⟨rfl, rfl⟩
      | shutDown k =>
          cases k with
          | queued ticket =>
              simp only [PoolCall.cancel, ShutDown.cancel]
              rw [leaveLockQueue_eq]
              exact ⟨rfl, rfl⟩
          | awaitingMaintenance | closing =>
              simp only [PoolCall.cancel, ShutDown.cancel]
              rw [releaseLock_eq]
              exact ⟨rfl, rfl⟩
  | maintainer n m =>
      cases habandon
      cases m with
      | resting due =>
          exact ⟨rfl, rfl⟩
      | checking due k =>
          exact absurd hnone k.guests_stake
  | closer d | finisher d =>
      cases habandon
      exact ⟨rfl, rfl⟩
  | borrower l =>
      cases habandon

/-- A request to shut the pool down is dropped after it has got the lock. -/
def breaksOff (e : Traffic × Action) : Bool :=
  match e.2 with
  | .drop i => e.1.parties[i]?.any Party.shutsDown
  | _ => false

theorem early_step (hs : s.Settled) (hphased : Phased s.pool s.held)
    (hearly : Early s.pool s.held) (hstep : s.step a = some t) (hnot : breaksOff (s, a) = false) :
    Early t.pool t.held := by
  by_cases hdrop : exists i, a = .drop i
  · rcases hdrop with ⟨i, rfl⟩
    rcases step_cases hstep with
      ⟨d, hact, _⟩ | ⟨request, hact, _⟩ | ⟨j, r, x, p, xs, hact, _⟩ |
      ⟨j, x, p, hact, hx, habandon, rfl⟩ | ⟨j, background, l, hact, _⟩ | ⟨j, l, hact, _⟩ |
      ⟨j, n, due, hact, _⟩ <;> cases hact
    have hphase := (abandon_slots habandon).2
    rcases exists_held_eq hx with ⟨F, hheld, hreplace⟩
    have hshuts : x.shutsDown = false := by
      simpa [breaksOff, hx] using hnot
    -- Those who are left hold what was not held by the one who is dropped.
    have hrest : Party.stock (s.replace i []).parties + (s.remains + (x.underway + x.remains)) =
        Party.stock [] + F + (x.underway + x.remains) :=
      stock_replace_add (hreplace []) (x.underway + x.remains)
    rw [adopt_pool, adopt_held, held_eq]
    constructor
    · intro hafter
      have hsome := hearly.shutting (hphase.symm.trans hafter)
      rw [hheld, tally_add, tally_shutting_tokens hshuts] at hsome
      rw [add_assoc s.remains, hrest]
      simp only [tally_add]
      omega
    · intro hafter
      rcases hearly.unused (by rw [← hphase]; exact hafter) with ⟨hguests, hp⟩
      have hleft := x.guests_leftovers
      rw [hheld, Party.tokens, tally_add, tally_add] at hguests
      rcases abandon_of_no_guest (by omega) habandon with ⟨hidle, hstats⟩
      refine ⟨?_, hp.of_same (by rw [hidle, hstats])⟩
      rw [add_assoc s.remains, hrest]
      have hnobody : tally guests (Party.stock []) = 0 := rfl
      have hdoomed : tally guests (doomed p.dues) = 0 := by simp
      simp only [tally_add] at hleft ⊢
      omega
  · have hchanges : Changes .undisturbed s.now s.pool (s.held + raws a.arrivals) t.pool t.held :=
      changes_step hs (fun _ => trivial) (fun i hi => absurd ⟨i, hi⟩ hdrop) hstep
    have hboth : Phased t.pool t.held ∧ Early t.pool t.held := by
      refine hchanges.invariant (I := fun p A => Phased p A ∧ Early p A) ?_ ⟨?_, ?_⟩
      · intro p q A B F hchange hp
        exact ⟨hp.1.change F hchange, Early.change not_false hchange hp.1 hp.2⟩
      · apply hphased.congr <;> simp
      · refine hearly.keep_counts rfl ?_ ?_ id
        · simp
        · simp
    exact hboth.2

theorem Run.early (h : Run s log t) (hs : s.Settled) (hphased : Phased s.pool s.held)
    (hearly : Early s.pool s.held) (hnot : forall e, e ∈ log -> breaksOff e = false) :
    Early t.pool t.held := by
  induction h with
  | done s =>
      exact hearly
  | act hstep _ ih =>
      rw [List.forall_mem_cons] at hnot
      exact ih (settled_step hs hstep) (phased_step hs hphased hstep)
        (early_step hs hphased hearly hstep hnot.1) hnot.2

/-- A pool that is not ready yet is unused, unless a request to shut it down was dropped. -/
theorem Run.unused (h : Run (ofConfig c) log t) (hnot : forall e, e ∈ log -> breaksOff e = false)
    (hphase : t.pool.phase.isEarly = true) : Unused t.pool :=
  ((h.early (settled_ofConfig c) (.ofConfig c) (.ofConfig c) hnot).unused hphase).2

end Traffic
end PoolHealth
