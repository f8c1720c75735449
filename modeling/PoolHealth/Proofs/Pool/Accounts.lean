import PoolHealth.Proofs.Pool.TrafficChanges

/-!
# The accounts of a pool

Each counter of a pool is the sum of what is held, added up by a weight of its own.  The
sums are right in the beginning, and every change of a pool keeps them right, whoever
makes it and whatever the others do meanwhile.  That no counter is ever asked for more
than it has is a consequence: whoever lowers it holds a token that counts.
-/

namespace PoolHealth

open ConnectionPool Token

variable {law : Law} {now : Instant} {p q : ConnectionPool} {A B F : Multiset Token}

structure PoolCounts where
  capacity : Nat
  available : Nat
  length : Nat
  pending : Nat
  waiting : Nat
  active : Nat
  idle : Nat
  total : Nat
  creations : Nat
  closures : Nat
  peak : Nat
  audit : Audit

def ConnectionPool.counts (p : ConnectionPool) : PoolCounts where
  capacity := p.config.maxSize.toNat
  available := p.slots.available
  length := p.idle.length
  pending := p.pending
  waiting := p.stats.waiting
  active := p.stats.active
  idle := p.stats.idle
  total := p.stats.total
  creations := p.stats.creations
  closures := p.stats.closures
  peak := p.stats.peak
  audit := p.audit

/-- The counters of a pool agree with what is held. -/
structure Balanced (p : ConnectionPool) (held : Multiset Token) : Prop where
  slots : p.slots.available + tally Token.slots held = p.config.maxSize.toNat
  waiting : p.stats.waiting = tally inLine held
  pending : p.pending = tally Token.pending held
  active : p.stats.active = tally Token.active held
  idle : p.stats.idle = p.idle.length
  total : p.stats.total = p.stats.active + p.idle.length
  creations : p.stats.creations = p.stats.closures + p.stats.total
  peak : p.stats.peak = p.audit.summit
  summit : p.stats.total ≤ p.audit.summit
  shortfall : p.audit.shortfall = 0

namespace Balanced

theorem ofConfig (c : PoolConfig) : Balanced (ConnectionPool.ofConfig c) 0 where
  slots := rfl
  waiting := rfl
  pending := rfl
  active := rfl
  idle := rfl
  total := rfl
  creations := rfl
  peak := rfl
  summit := Nat.le_refl 0
  shortfall := rfl

theorem congr (h : Balanced p A) (hslots : tally Token.slots B = tally Token.slots A)
    (hwaiting : tally inLine B = tally inLine A)
    (hpending : tally Token.pending B = tally Token.pending A)
    (hactive : tally Token.active B = tally Token.active A) : Balanced p B where
  slots := by rw [hslots, h.slots]
  waiting := by rw [hwaiting, h.waiting]
  pending := by rw [hpending, h.pending]
  active := by rw [hactive, h.active]
  idle := h.idle
  total := h.total
  creations := h.creations
  peak := h.peak
  summit := h.summit
  shortfall := h.shortfall

theorem add_raws (cs : List Connection) (h : Balanced p A) : Balanced p (A + raws cs) := by
  apply h.congr
  · simp
  · simp
  · simp
  · simp

/-- Only what is counted matters, and of what is held only the sums. -/
theorem keep (h : Balanced p A) (hcounts : q.counts = p.counts)
    (hslots : tally Token.slots B = tally Token.slots A)
    (hwaiting : tally inLine B = tally inLine A)
    (hpending : tally Token.pending B = tally Token.pending A)
    (hactive : tally Token.active B = tally Token.active A) : Balanced q B := by
  have hsame := h.congr hslots hwaiting hpending hactive
  simp only [counts, PoolCounts.mk.injEq] at hcounts
  rcases hcounts with ⟨hcapacity, havailable, hlength, hpending', hwaiting', hactive', hidle',
    htotal', hcreations', hclosures', hpeak', haudit'⟩
  constructor
  · rw [hcapacity, havailable, hsame.slots]
  · rw [hwaiting', hsame.waiting]
  · rw [hpending', hsame.pending]
  · rw [hactive', hsame.active]
  · rw [hidle', hlength, hsame.idle]
  · rw [htotal', hactive', hlength, hsame.total]
  · rw [hcreations', hclosures', htotal', hsame.creations]
  · rw [hpeak', haudit', hsame.peak]
  · rw [htotal', haudit']
    exact hsame.summit
  · rw [haudit', hsame.shortfall]

/-!
### One operation

A counter that is lowered stands for a token that is given away.  Therefore it is not
zero.
-/

theorem after_take {slots : Semaphore} (h : Balanced p F)
    (hfree : slots.available + 1 = p.slots.available) :
    Balanced { p with slots := slots } ({.slot .bare} + F) := by
  rcases h with ⟨hslots, hwaiting, hpending, hactive, hidle, htotal, hcreations, hpeak, hsummit,
    hshortfall⟩
  constructor <;> simp <;> omega

theorem after_releaseSlot (h : Balanced p ({.slot .bare} + F)) : Balanced p.releaseSlot F := by
  rcases h with ⟨hslots, hwaiting, hpending, hactive, hidle, htotal, hcreations, hpeak, hsummit,
    hshortfall⟩
  simp at hslots hwaiting hpending hactive
  rw [releaseSlot_eq]
  constructor <;> simp [Semaphore.available_release] <;> omega

theorem after_addWaiter (h : Balanced p F) : Balanced p.addWaiter ({.queued} + F) := by
  rcases h with ⟨hslots, hwaiting, hpending, hactive, hidle, htotal, hcreations, hpeak, hsummit,
    hshortfall⟩
  constructor <;> simp [addWaiter] <;> omega

theorem after_dropWaiter (h : Balanced p ({.queued} + F)) : Balanced p.dropWaiter F := by
  rcases h with ⟨hslots, hwaiting, hpending, hactive, hidle, htotal, hcreations, hpeak, hsummit,
    hshortfall⟩
  simp at hslots hwaiting hpending hactive
  constructor <;> simp [dropWaiter, Audit.lower] <;> omega

theorem after_addPending (h : Balanced p ({.slot .bare} + F)) :
    Balanced p.addPending ({.slot .opening} + F) := by
  rcases h with ⟨hslots, hwaiting, hpending, hactive, hidle, htotal, hcreations, hpeak, hsummit,
    hshortfall⟩
  simp at hslots hwaiting hpending hactive
  constructor <;> simp [addPending] <;> omega

theorem after_dropPending (h : Balanced p ({.slot .opening} + F)) :
    Balanced p.dropPending ({.slot .bare} + F) := by
  rcases h with ⟨hslots, hwaiting, hpending, hactive, hidle, htotal, hcreations, hpeak, hsummit,
    hshortfall⟩
  simp at hslots hwaiting hpending hactive
  constructor <;> simp [dropPending, Audit.lower] <;> omega

theorem after_lend (c : Connection) (h : Balanced p ({.slot .bare} + F)) :
    Balanced p.recordCreation.addActive ({.lent c} + F) := by
  rcases h with ⟨hslots, hwaiting, hpending, hactive, hidle, htotal, hcreations, hpeak, hsummit,
    hshortfall⟩
  simp at hslots hwaiting hpending hactive
  constructor <;> simp [recordCreation, PoolStats.recordPeak, addActive, Audit.reach] <;> omega

theorem after_shelve (e : IdleConnection) (h : Balanced p F) :
    Balanced (p.recordCreation.pushIdle e) F := by
  rcases h with ⟨hslots, hwaiting, hpending, hactive, hidle, htotal, hcreations, hpeak, hsummit,
    hshortfall⟩
  constructor <;> simp [recordCreation, PoolStats.recordPeak, pushIdle, Audit.reach] <;> omega

theorem after_return {c : Connection} (e : IdleConnection) (h : Balanced p ({.lent c} + F)) :
    Balanced (p.dropActive.pushIdle e) ({.slot .bare} + F) := by
  rcases h with ⟨hslots, hwaiting, hpending, hactive, hidle, htotal, hcreations, hpeak, hsummit,
    hshortfall⟩
  simp at hslots hwaiting hpending hactive
  constructor <;> simp [dropActive, pushIdle, Audit.lower] <;> omega

theorem after_discard {c : Connection} (h : Balanced p ({.lent c} + F)) :
    Balanced (p.dropActive.recordClosures 1) ({.slot .bare} + F) := by
  rcases h with ⟨hslots, hwaiting, hpending, hactive, hidle, htotal, hcreations, hpeak, hsummit,
    hshortfall⟩
  simp at hslots hwaiting hpending hactive
  constructor <;> simp [dropActive, recordClosures, Audit.reach, Audit.lower] <;> omega

theorem after_afterPick {expired : Nat} {rest : List IdleConnection} (c : Connection)
    (hlength : p.idle.length = expired + (rest.length + 1))
    (h : Balanced p ({.slot .bare} + F)) :
    Balanced (p.afterPick expired rest) ({.lent c} + F) := by
  rcases h with ⟨hslots, hwaiting, hpending, hactive, hidle, htotal, hcreations, hpeak, hsummit,
    hshortfall⟩
  simp at hslots hwaiting hpending hactive
  constructor <;>
    simp [afterPick, addActive, recordClosures, dropIdle, Audit.reach, Audit.lower] <;>
    omega

theorem after_afterSweep (h : Balanced p F) : Balanced p.afterSweep F := by
  rcases h with ⟨hslots, hwaiting, hpending, hactive, hidle, htotal, hcreations, hpeak, hsummit,
    hshortfall⟩
  constructor <;>
    simp [afterSweep, recordClosures, dropIdle, Audit.reach, Audit.lower] <;>
    omega

theorem after_takeExpired (now : Instant) (h : Balanced p F) :
    Balanced (p.takeExpired now).1 F := by
  have hlength := length_takeExpired p now
  rcases h with ⟨hslots, hwaiting, hpending, hactive, hidle, htotal, hcreations, hpeak, hsummit,
    hshortfall⟩
  rw [takeExpired_eq]
  constructor <;> simp [recordClosures, Audit.reach, Audit.lower] <;> omega

theorem after_takeAllIdle (h : Balanced p F) : Balanced p.takeAllIdle.1 F := by
  rcases h with ⟨hslots, hwaiting, hpending, hactive, hidle, htotal, hcreations, hpeak, hsummit,
    hshortfall⟩
  constructor <;> simp [takeAllIdle, recordClosures, Audit.reach, Audit.lower] <;> omega

theorem after_furnish (now : Instant) (opened : List Connection) (h : Balanced p F) :
    Balanced (WarmUp.furnish p now opened) F := by
  rcases h with ⟨hslots, hwaiting, hpending, hactive, hidle, htotal, hcreations, hpeak, hsummit,
    hshortfall⟩
  rw [WarmUp.furnish_eq]
  by_cases hnone : opened = []
  · constructor <;> simp [hnone] <;> omega
  · constructor <;> simp [hnone] <;> omega

theorem after_closeSlots (h : Balanced p F) : Balanced p.closeSlots F :=
  h.keep (by simp [counts, closeSlots, Semaphore.available_close]) rfl rfl rfl rfl

/-!
### Several operations
-/

theorem after_openFailed (h : Balanced p ({.slot .opening} + F)) :
    Balanced p.dropPending.releaseSlot F := h.after_dropPending.after_releaseSlot

theorem after_land (c : Connection) (h : Balanced p ({.slot .opening} + F)) :
    Balanced p.recordCreation.addActive.dropPending ({.lent c} + F) :=
  h.after_dropPending.after_lend c

theorem opening_of_refilling (h : Balanced p ({.slot .refilling} + F)) :
    Balanced p ({.slot .opening} + F) := by
  apply h.congr <;> simp

theorem after_refillFailed (h : Balanced p ({.slot .refilling} + F)) :
    Balanced p.releaseSlot.dropPending F := by
  have hfailed := h.opening_of_refilling.after_openFailed
  rw [releaseSlot_eq] at hfailed ⊢
  exact hfailed

theorem after_landIdle (e : IdleConnection) (h : Balanced p ({.slot .refilling} + F)) :
    Balanced (p.recordCreation.pushIdle e).releaseSlot.dropPending F := by
  have hshelved :=
    (h.opening_of_refilling.after_dropPending.after_shelve e).after_releaseSlot
  rw [releaseSlot_eq] at hshelved ⊢
  exact hshelved

/-- What is counted does not depend on whether there is a background. -/
theorem after_giveBack {l : Lease} (now : Instant) (background : Bool)
    (h : Balanced p ({.lent l.connection} + F)) : Balanced (p.giveBack now l background) F := by
  cases hkept : p.isReusable now l with
  | true =>
      rw [giveBack_of_isReusable hkept]
      exact (h.after_return _).after_releaseSlot
  | false =>
      cases background with
      | true =>
          rw [giveBack_background hkept]
          have hclosed : Balanced ((p.dropActive.recordClosures 1).emit (.closeLater l.connection))
              ({.slot .bare} + F) := h.after_discard.keep rfl rfl rfl rfl rfl
          exact hclosed.after_releaseSlot
      | false =>
          rw [giveBack_foreground hkept]
          exact h.after_discard.after_releaseSlot

theorem change (F : Multiset Token) (h : Change law now p A q B) (hp : Balanced p (A + F)) :
    Balanced q (B + F) := by
  cases h with
  -- Somebody gets in line for a slot, leaves the line, or has a slot.
  | take hready htaken =>
      rw [zero_add] at hp
      exact hp.after_take (Semaphore.available_of_taken htaken)
  | called hturn =>
      apply (hp.after_take (Semaphore.available_of_promised hturn)).congr <;> simp
  | line =>
      rw [zero_add] at hp
      apply hp.after_addWaiter.keep <;> simp [counts, addWaiter, Semaphore.available_wait]
  | leaveLine t =>
      rw [leaveSlotQueue_eq]
      apply hp.keep <;> simp [counts, Semaphore.available_leave]
  | unline =>
      rw [zero_add]
      exact hp.after_dropWaiter
  | handBack =>
      rw [zero_add]
      exact hp.after_releaseSlot
  | forget c =>
      have hbare : Balanced p ({.slot .bare} + ({.forgotten c} + F)) := by
        apply hp.congr <;> simp
      exact hbare.after_releaseSlot
  -- Idle connections are taken.
  | found hsplit hexpired hlive =>
      rename_i expired rest e
      have hlength : p.idle.length = expired.length + (rest.length + 1) := by
        rw [hsplit, List.length_append, List.length_cons]
      apply (hp.after_afterPick e.connection hlength).congr <;> simp [-List.map_map]
  | foundNone =>
      apply hp.after_afterSweep.congr <;> simp [-List.map_map]
  | openAtOnce =>
      exact hp.after_afterSweep.after_addPending
  | evict =>
      apply (hp.after_takeExpired now).congr <;> simp [takeExpired_eq, -List.map_map]
  | drain =>
      apply hp.after_closeSlots.after_takeAllIdle.congr <;> simp [takeAllIdle, -List.map_map]
  -- A connection is opened.
  | openLate =>
      have hbare : Balanced p ({.slot .bare} + F) := by
        apply hp.congr <;> simp
      exact hbare.after_addPending
  | reserve hmin hmax htaken =>
      have htake := hp.after_take (Semaphore.available_of_taken htaken)
      apply htake.after_addPending.congr <;> simp
  | land c =>
      have hopening : Balanced p ({.slot .opening} + F) := by
        apply hp.congr <;> simp
      exact hopening.after_land c
  | landIdle c =>
      have hrefilling : Balanced p ({.slot .refilling} + F) := by
        apply hp.congr <;> simp
      rw [zero_add]
      exact hrefilling.after_landIdle _
  | openFailed =>
      rw [zero_add]
      exact hp.after_openFailed
  | refillFailed =>
      rw [zero_add]
      exact hp.after_refillFailed
  | warmed =>
      apply (hp.after_furnish now _).congr <;> simp
  -- A loan ends.
  | reject =>
      apply hp.after_discard.congr <;> simp
  | giveBack =>
      rw [zero_add]
      exact hp.after_giveBack now _
  | strand =>
      apply (hp.after_giveBack now false).congr <;> simp
  -- Nothing that is counted changes.
  | settle | hand | handRaw | lose | loseRaw | check | checked =>
      apply hp.congr <;> simp
  | closeUnused =>
      exact hp.after_closeSlots.keep rfl rfl rfl rfl rfl
  | leaveLockLine =>
      rw [leaveLockQueue_eq]
      exact hp.keep rfl rfl rfl rfl rfl
  | unlock | abandonLock =>
      rw [releaseLock_eq]
      refine hp.keep rfl ?_ ?_ ?_ ?_ <;> simp
  | note | error | hit | wait | exhaustion | verdict | lock | lineForLock | calledForLock | warm
  | cooled | shut | tellMaintenance | drained =>
      refine hp.keep rfl ?_ ?_ ?_ ?_ <;> simp

end Balanced

theorem ConnectionPool.summit_giveBack (p : ConnectionPool) (l : Lease) (background : Bool) :
    (p.giveBack now l background).audit.summit = p.audit.summit ∨
      (p.giveBack now l background).audit.summit =
        max p.audit.summit (p.giveBack now l background).stats.total := by
  rw [giveBack_eq]
  cases hkept : p.isReusable now l with
  | true =>
      exact Or.inl rfl
  | false =>
      exact Or.inr rfl

theorem WarmUp.summit_furnish (p : ConnectionPool) (opened : List Connection) :
    (furnish p now opened).audit.summit = p.audit.summit ∨
      (furnish p now opened).audit.summit =
        max p.audit.summit (furnish p now opened).stats.total := by
  rw [furnish_eq]
  by_cases hnone : opened = []
  · left
    simp [hnone]
  · right
    simp [hnone]

theorem Change.summit_cases (h : Change law now p A q B) :
    q.audit.summit = p.audit.summit ∨ q.audit.summit = max p.audit.summit q.stats.total := by
  cases h with
  | leaveLine =>
      rw [leaveSlotQueue_eq]
      exact Or.inl rfl
  | handBack | openFailed | refillFailed | forget =>
      rw [releaseSlot_eq]
      exact Or.inl rfl
  | landIdle =>
      rw [releaseSlot_eq]
      exact Or.inr rfl
  | giveBack | strand =>
      exact summit_giveBack p _ _
  | leaveLockLine =>
      rw [leaveLockQueue_eq]
      exact Or.inl rfl
  | unlock | abandonLock =>
      rw [releaseLock_eq]
      exact Or.inl rfl
  | warmed =>
      exact WarmUp.summit_furnish p _
  | found | foundNone | openAtOnce | evict | drain | land | reject =>
      exact Or.inr rfl
  | _ =>
      exact Or.inl rfl

/-- The most that was ever open does not become less, and it becomes more only by what is
open then. -/
theorem Change.summit_bounds (h : Change law now p A q B) :
    p.audit.summit ≤ q.audit.summit ∧ q.audit.summit ≤ max p.audit.summit q.stats.total := by
  rcases h.summit_cases with hkept | hreached
  · rw [hkept]
    exact ⟨Nat.le_refl _, Nat.le_max_left _ _⟩
  · rw [hreached]
    exact ⟨Nat.le_max_left _ _, Nat.le_refl _⟩

theorem Changes.summit_le (h : Changes law now p A q B) : p.audit.summit ≤ q.audit.summit := by
  induction h with
  | refl =>
      exact Nat.le_refl _
  | step F hfirst _ ih =>
      exact Nat.le_trans hfirst.summit_bounds.1 ih

namespace Traffic

theorem Run.balanced {c : PoolConfig} {t : Traffic} {log : Log} (h : Run (ofConfig c) log t) :
    Balanced t.pool t.held :=
  h.keeps .any Balanced.change Balanced.add_raws (fun e _ => admits_any e) (settled_ofConfig c)
    (Balanced.ofConfig c)

theorem Run.summit_le {s t : Traffic} {log : Log} (h : Run s log t) (hs : s.Settled) :
    s.pool.audit.summit ≤ t.pool.audit.summit := by
  induction h with
  | done s =>
      exact Nat.le_refl _
  | @act s t u a log hstep _ ih =>
      have hchanges : Changes .any s.now s.pool (s.held + raws a.arrivals) t.pool t.held :=
        changes_step hs (fun _ => trivial) (fun _ _ => trivial) hstep
      exact Nat.le_trans hchanges.summit_le (ih (settled_step hs hstep))

/-- The counters of a pool agree with each other and with its idle connections at all
times, and none of them is ever asked for more than it has: whatever the calls of the pool
do, in which order they go on, and wherever they are dropped. -/
theorem counters_agree {c : PoolConfig} {t : Traffic} {log : Log}
    (h : Run (ofConfig c) log t) :
    t.pool.stats.idle = t.pool.idle.length ∧
      t.pool.stats.total = t.pool.stats.active + t.pool.stats.idle ∧
      (t.pool.stats.creations : Int) - t.pool.stats.closures = t.pool.stats.total ∧
      t.pool.stats.peak = t.pool.audit.summit ∧
      t.pool.stats.total ≤ t.pool.stats.peak ∧
      (forall e, e ∈ log -> e.1.pool.stats.total ≤ t.pool.stats.peak) ∧
      t.pool.audit.shortfall = 0 := by
  have hbalanced := h.balanced
  refine ⟨hbalanced.idle, ?_, ?_, hbalanced.peak, ?_, ?_, hbalanced.shortfall⟩
  · rw [hbalanced.idle]
    exact hbalanced.total
  · have hcreations := hbalanced.creations
    omega
  · rw [hbalanced.peak]
    exact hbalanced.summit
  · intro e he
    rcases h.split he with ⟨before, later, u, _, hbefore, hstep, hlater⟩
    have hsettled := hbefore.settled (settled_ofConfig c)
    rw [hbalanced.peak]
    exact Nat.le_trans hbefore.balanced.summit ((Run.act hstep hlater).summit_le hsettled)

/-- Two connections are opened, and one of them is lent. -/
theorem counters_agree_after_loan :
    exists log t,
      Run (ofConfig { PoolConfig.named "p" with minSize := 2 }) log t ∧
        t.pool.stats.active = 1 ∧ t.pool.stats.idle = 1 ∧
        t.pool.stats.total = t.pool.stats.active + t.pool.stats.idle := by
  have hrun : ((ofConfig { PoolConfig.named "p" with minSize := 2 }).run
      [.call .warmUp, .reply 0 (.created (.ok ⟨0⟩)), .reply 0 (.created (.ok ⟨1⟩)),
        .call .acquire, .reply 1 (.validated true)]).any
        (fun t => t.pool.stats.active = 1 ∧ t.pool.stats.idle = 1) = true := by
    decide +kernel
  rcases exists_run_of_any hrun with ⟨log, t, h, _, hloan⟩
  have hcounts := of_decide_eq_true hloan
  exact ⟨log, t, h, hcounts.1, hcounts.2, (counters_agree h).2.1⟩

end Traffic
end PoolHealth
