import PoolHealth.Proofs.Pool.Closing
import PoolHealth.Proofs.Pool.Phases
import PoolHealth.Proofs.Pool.Roles
import Mathlib.Algebra.Order.BigOperators.Group.List
import Mathlib.Algebra.Order.Group.Nat

/-!
# Draining

Shutting a pool down closes what is idle, and from then on nobody can have a slot or make
a connection idle: a connection that comes back is closed, and so is one that a checkout
still opens, once it comes back.  A refill that is under way does not ask whether the pool
is closed.  The connection that it opens becomes idle, and nobody will ever close it.

A closed pool is therefore empty of idle connections for good if and only if it is so
already and no refill is under way.
-/

namespace PoolHealth

open ConnectionPool Token

variable {law : Law} {now : Instant} {p q : ConnectionPool} {A B F : Multiset Token}

structure Drained (p : ConnectionPool) (held : Multiset Token) : Prop where
  closed : p.phase = .closed
  idle : p.idle = []
  settled : tally refilling held = 0

namespace Drained

theorem keep (h : Drained p A) (hphase : q.phase = p.phase)
    (hidle : p.idle = [] -> q.idle = []) (hsettled : tally refilling B = tally refilling A) :
    Drained q B where
  closed := by rw [hphase, h.closed]
  idle := hidle h.idle
  settled := by rw [hsettled, h.settled]

theorem not_ready (h : Drained p A) : p.isReady = false := by
  unfold isReady
  rw [h.closed]
  rfl

theorem change (h : Change law now p A q B) (hphased : Phased p (A + F))
    (hp : Drained p (A + F)) : Drained q (B + F) := by
  have hnotReady := hp.not_ready
  have hclosed := hp.closed
  have hslots := hphased.closed hclosed
  have hwarming : tally warming (A + F) = 0 := by
    by_contra hsome
    rw [hphased.warming hsome] at hclosed
    cases hclosed
  have hshutting : tally shutting (A + F) = 0 := by
    by_contra hsome
    rw [hphased.shutting hsome] at hclosed
    cases hclosed
  cases h with
  -- The phase forbids it.
  | take hready | line hready | check hready =>
      rw [hnotReady] at hready
      cases hready
  | warm hready hnot =>
      contradiction
  | shut hunused hnot =>
      contradiction
  | closeUnused hphase =>
      rw [hclosed] at hphase
      cases hphase
  | warmed | cooled =>
      simp at hwarming
  | tellMaintenance | drain | drained =>
      simp at hshutting
  -- There are no slots and no refills any more.
  | reserve hmin hmax htaken =>
      rw [(Semaphore.not_closed_of_taken htaken).1] at hslots
      cases hslots
  | landIdle | refillFailed =>
      have hnone := hp.settled
      simp at hnone
  -- There are no idle connections any more.
  | found hsplit =>
      rw [hp.idle] at hsplit
      cases List.append_eq_nil_iff.mp hsplit.symm |>.2
  | foundNone hsome =>
      exact absurd hp.idle hsome
  | openAtOnce hnone =>
      apply hp.keep <;> simp [afterSweep, addPending, recordClosures, dropIdle]
  | evict =>
      rw [takeExpired_eq]
      apply hp.keep <;> simp_all [-List.map_map, recordClosures]
  -- A connection that comes back cannot be lent again.
  | giveBack | strand =>
      rw [giveBack_eq]
      apply hp.keep <;> simp [isReusable, hnotReady]
  -- Nothing of that is touched.
  | handBack | forget | openFailed | leaveLine | leaveLockLine | unlock | abandonLock =>
      apply hp.keep <;>
        simp [releaseSlot_eq, leaveSlotQueue_eq, leaveLockQueue_eq, releaseLock_eq, dropPending]
  | _ =>
      apply hp.keep <;>
        simp [recordCreation, recordClosures, recordError, recordHit, recordWait,
          recordExhaustion, Checkup.report, emit, dropWaiter, dropActive, dropPending, addActive,
          addPending]

end Drained

/-!
## Refills
-/

namespace Traffic

variable {c : PoolConfig} {s t u : Traffic} {log later : Log}

theorem Run.refilling_eq_zero_iff (h : Run (ofConfig c) log t) :
    tally refilling t.held = 0 <-> forall x, x ∈ t.parties -> x.refill? = none := by
  rw [h.tally_refilling, List.countP_eq_zero]
  simp only [Party.isRefilling, Option.isSome_iff_ne_none, ne_eq, not_not]

/-- A closed pool that is drained and is not being refilled stays drained. -/
theorem Run.stays_drained (h : Run (ofConfig c) log t) (hlater : Run t later u)
    (hdrained : Drained t.pool t.held) : Drained u.pool u.held := by
  refine (hlater.keeps .any (I := fun p A => Phased p A ∧ Drained p A) ?_ ?_
    (fun e _ => admits_any e) (h.settled (settled_ofConfig c)) ⟨h.phased, hdrained⟩).2
  · intro now p q A B F hchange hp
    exact ⟨Phased.change F hchange hp.1, Drained.change hchange hp.1 hp.2⟩
  · intro p A cs hp
    constructor
    · apply hp.1.congr <;> simp
    · apply hp.2.keep <;> simp

/-!
## A refill lands

The backend can always open a connection that it has not opened before.
-/

end Traffic

theorem Connection.exists_notMem (cs : List Connection) : exists d : Connection, d ∉ cs := by
  refine ⟨⟨(cs.map Connection.id).sum + 1⟩, ?_⟩
  intro hmem
  have hle := List.le_sum_of_mem (List.mem_map_of_mem (f := Connection.id) hmem)
  exact Nat.not_succ_le_self _ hle

namespace Checkup

theorem idle_probe (hready : p.isReady = false) (now : Instant) :
    (probe p now).1.idle = p.idle := by
  have hstart : Checkout.start p now = (p, .done (.error p.notInitialized)) := by
    unfold Checkout.start
    rw [hready]
    rfl
  unfold probe
  rw [hstart]
  rfl

theorem idle_refill (hready : p.isReady = false) (now : Instant) :
    (refill p now).1.idle = p.idle := by
  unfold refill
  cases hreserve : p.reserveRefill? with
  | none =>
      exact idle_probe hready now
  | some reserved =>
      rcases reserveRefill?_eq_some hreserve with ⟨_, _, rfl⟩
      cases htaken : p.addPending.slots.tryTake with
      | taken slots =>
          simp only [htaken]
          rfl
      | noneFree | closed =>
          simp only [htaken]
          exact idle_probe (p := p.addPending.dropPending) hready now

theorem idle_step_of_refill {k : Checkup} {n : Nat} (hk : k.refill? = some (.creating n))
    (hready : p.isReady = false) (now : Instant) (d : Connection) :
    (k.step p now (.created (.ok d))).1.idle = p.idle ++ [⟨d, now, now⟩] := by
  cases k with
  | refilling o =>
      cases hk
      show (refill (p.recordCreation.pushIdle ⟨d, now, now⟩).releaseSlot.dropPending now).1.idle = _
      rw [releaseSlot_eq, idle_refill]
      · rfl
      · exact hready
  | evicting c rest | probing k =>
      cases hk

end Checkup

namespace Traffic

variable {c : PoolConfig} {s t u : Traffic} {log later : Log}

/-- The connection of a refill becomes idle, whatever the phase. -/
theorem proceed_of_refill_creating {x : Party} {n : Nat} {d : Connection}
    (hx : x.refill? = some (.creating n)) (hready : s.pool.isReady = false) (hd : d ∉ s.opened) :
    exists p xs, s.proceed (.created (.ok d)) x = some (p, xs) ∧
      p.idle = s.pool.idle ++ [⟨d, s.now, s.now⟩] := by
  have hallows : s.allows .create (.created (.ok d)) = true := by
    simp [allows, Reply.fits, canEnd, Reply.arrivals, hd]
  have hawait : forall k : Checkup, k.refill? = some (.creating n) ->
      k.await s.pool.config = .create := by
    intro k hk
    cases k with
    | refilling o =>
        cases hk
        rfl
    | evicting c rest | probing k =>
        cases hk
  cases x with
  | caller call =>
      cases call with
      | checkup k =>
          refine ⟨((PoolCall.checkup k).step s.pool s.now (.created (.ok d))).1,
            Party.ofProgress ((PoolCall.checkup k).step s.pool s.now (.created (.ok d))).2, ?_, ?_⟩
          · have hends :
                s.allows ((PoolCall.checkup k).await s.pool.config) (.created (.ok d)) = true := by
              show s.allows (k.await s.pool.config) _ = true
              rw [hawait k hx]
              exact hallows
            exact if_pos hends
          · rw [PoolCall.step, PoolCall.pool_wrap]
            exact Checkup.idle_step_of_refill hx hready s.now d
      | acquire k | tryAcquire k | warmUp k | shutDown k =>
          cases hx
  | maintainer round m =>
      cases m with
      | checking due k =>
          refine ⟨(Maintenance.step s.pool s.now (.checking due k) (.created (.ok d))).1,
            [.maintainer round
              (Maintenance.step s.pool s.now (.checking due k) (.created (.ok d))).2], ?_, ?_⟩
          · have hends : s.allows (k.await s.pool.config) (.created (.ok d)) := by
              rw [hawait k hx]
              exact hallows
            exact if_pos hends
          · rw [Maintenance.step, Maintenance.pool_settle]
            exact Checkup.idle_step_of_refill hx hready s.now d
      | resting due =>
          cases hx
  | borrower l | closer e | finisher e =>
      cases hx

theorem proceed_of_refill_pausing {x : Party} {n : Nat} (hx : x.refill? = some (.pausing n)) :
    exists y, s.proceed .stirred x = some (s.pool, [y]) ∧
      y.refill? = some (.creating (n + 1)) := by
  have hcheckup : forall k : Checkup, k.refill? = some (.pausing n) ->
      k = .refilling (.pausing n) := by
    intro k hk
    cases k with
    | refilling o =>
        cases hk
        rfl
    | evicting c rest | probing k =>
        cases hk
  cases x with
  | caller call =>
      cases call with
      | checkup k =>
          cases hcheckup k hx
          exact ⟨.caller (.checkup (.refilling (.creating (n + 1)))), rfl, rfl⟩
      | acquire k | tryAcquire k | warmUp k | shutDown k =>
          cases hx
  | maintainer round m =>
      cases m with
      | checking due k =>
          cases hcheckup k hx
          exact ⟨.maintainer round (.checking due (.refilling (.creating (n + 1)))), rfl, rfl⟩
      | resting due =>
          cases hx
  | borrower l | closer e | finisher e =>
      cases hx

theorem step_reply_eq {i : Nat} {x : Party} {r : Reply} {p : ConnectionPool} {xs : List Party}
    (hx : s.parties[i]? = some x) (hproceed : s.proceed r x = some (p, xs)) :
    s.step (.reply i r) = some (adopt
      { s.replace i xs with
        opened := s.opened ++ r.arrivals
        remains := s.remains + x.underway } p) := by
  simp [step, hx, hproceed]

/-- A refill in a pool that is not ready can land, without anything being dropped. -/
theorem exists_run_of_refill_creating {i n : Nat} {x : Party} (hi : s.parties[i]? = some x)
    (hx : x.refill? = some (.creating n)) (hready : s.pool.isReady = false) :
    exists later u, Run s later u ∧ Undisturbed later ∧ u.pool.idle ≠ [] := by
  rcases Connection.exists_notMem s.opened with ⟨d, hd⟩
  rcases proceed_of_refill_creating hx hready hd with ⟨p, xs, hproceed, hidle⟩
  refine ⟨_, _, Run.act (step_reply_eq hi hproceed) (Run.done _), ?_, ?_⟩
  · intro e he j hdrop
    cases List.mem_singleton.mp he
    cases hdrop
  · rw [adopt_pool]
    show p.idle ≠ []
    rw [hidle]
    exact List.append_ne_nil_of_right_ne_nil _ (List.cons_ne_nil _ _)

theorem exists_run_of_refill {x : Party} {o : Opening} (hsettled : s.Settled)
    (hmem : x ∈ s.parties) (hx : x.refill? = some o) (hready : s.pool.isReady = false) :
    exists later u, Run s later u ∧ Undisturbed later ∧ u.pool.idle ≠ [] := by
  rcases List.getElem?_of_mem hmem with ⟨i, hi⟩
  cases o with
  | creating n =>
      exact exists_run_of_refill_creating hi hx hready
  | pausing n =>
      rcases proceed_of_refill_pausing (s := s) hx with ⟨y, hproceed, hy⟩
      have hnext : (s.replace i [y]).parties[i]? = some y := by
        have hlt : i < s.parties.length := (List.getElem?_eq_some_iff.mp hi).1
        have hlength : (s.parties.take i).length = i := List.length_take_of_le hlt.le
        show (s.parties.take i ++ [y] ++ s.parties.drop (i + 1))[i]? = some y
        rw [List.append_assoc, List.getElem?_append_right hlength.le, hlength, Nat.sub_self]
        rfl
      -- No event waits, so that the party is at its place afterwards.
      have hadopt : forall v : Traffic,
          v.adopt s.pool = { v with pool := { s.pool with outbox := [] } } := by
        intro v
        unfold adopt
        rw [hsettled.outbox]
        rfl
      have hstep := step_reply_eq hi hproceed
      rw [hadopt] at hstep
      have hlands := exists_run_of_refill_creating
        (s := { s.replace i [y] with
          opened := s.opened ++ Reply.stirred.arrivals
          remains := s.remains + x.underway
          pool := { s.pool with outbox := [] } }) hnext hy hready
      rcases hlands with ⟨later, u, hrun, hquiet, hidle⟩
      refine ⟨_, u, Run.act hstep hrun, ?_, hidle⟩
      intro e he j hdrop
      rcases List.mem_cons.mp he with rfl | he
      · cases hdrop
      · exact hquiet e he j hdrop

/-- What a closed pool comes to: no connection is idle, all are on loan.  If nothing was
dropped and nobody is left, there are none, and each was closed once or stranded once. -/
structure Emptied (log : Log) (s : Traffic) : Prop where
  idle : s.pool.idle = []
  total : s.pool.stats.total = s.pool.stats.active
  deserted : Undisturbed log -> s.parties = [] -> s.pool.stats.total = 0 ∧
    forall d, d ∈ s.opened ->
      (log.countP fun e => e.1.closes d e.2) + (log.countP fun e => e.1.strands d e.2) = 1

theorem Run.emptied (h : Run (ofConfig c) log t) (hdrained : Drained t.pool t.held) :
    t.Emptied log := by
  constructor
  · exact hdrained.idle
  · rw [h.balanced.total, hdrained.idle]
    rfl
  · intro hundisturbed hnobody
    constructor
    · rw [h.total_eq_length_idle hundisturbed hnobody, hdrained.idle]
      rfl
    · intro d hd
      have honce := h.closed_once hundisturbed hnobody hd
      have hnone : t.pool.idleCount d = 0 := by
        unfold idleCount
        rw [hdrained.idle]
        rfl
      omega

/-- A closed pool is emptied, whatever follows, if and only if no connection is idle now and
no refill is under way.  Otherwise the idle connections are those that are left in the end:
every other one was closed once or stranded once. -/
theorem closed_pool_emptied_iff (h : Run (ofConfig c) log t) (hclosed : t.pool.phase = .closed) :
    ((forall later u, Run t later u -> Undisturbed later -> u.Emptied (log ++ later)) <->
      t.pool.idle = [] ∧ forall x, x ∈ t.parties -> x.refill? = none) ∧
    (Undisturbed log -> t.parties = [] ->
      t.pool.stats.total = t.pool.idle.length ∧
      forall d, d ∈ t.opened ->
        (log.countP fun e => e.1.closes d e.2) + (log.countP fun e => e.1.strands d e.2)
          + t.pool.idleCount d = 1) := by
  have hnotReady : t.pool.isReady = false := by
    unfold isReady
    rw [hclosed]
    rfl
  refine ⟨⟨?_, ?_⟩, ?_⟩
  · intro hempty
    have hnow : Undisturbed [] := by
      intro e he
      cases he
    refine ⟨(hempty [] t (Run.done t) hnow).idle, ?_⟩
    intro x hx
    cases hrefill : x.refill? with
    | none =>
        rfl
    | some o =>
        have hsettled := h.settled (settled_ofConfig c)
        rcases exists_run_of_refill hsettled hx hrefill hnotReady with
          ⟨later, u, hlater, hquiet, hidle⟩
        exact absurd (hempty later u hlater hquiet).idle hidle
  · rintro ⟨hidle, hrefills⟩ later u hlater hquiet
    have hdrained : Drained t.pool t.held := ⟨hclosed, hidle, h.refilling_eq_zero_iff.mpr hrefills⟩
    exact (h.append hlater).emptied (h.stays_drained hlater hdrained)
  · intro hundisturbed hnobody
    refine ⟨h.total_eq_length_idle hundisturbed hnobody, ?_⟩
    intro d hd
    exact h.closed_once hundisturbed hnobody hd

def smallConfig : PoolConfig :=
  { PoolConfig.named "p" with
    minSize := 1
    maxSize := 2
    healthCheckInterval := .ofSecs 1000 }

/-- The only connection breaks and is closed, and a health check opens another one. -/
def refillUnderWay : List Action :=
  [.call .warmUp, .reply 0 (.created (.ok ⟨0⟩)), .call .acquire, .reply 1 (.validated true),
    .markBroken 1, .giveBack 1 true, .reply 1 .stirred, .reply 1 (.closed (.ok ())),
    .call .checkup]

/-- The pool is shut down meanwhile.  Then the connection of the refill is idle for good. -/
theorem refill_lands_in_closed_pool :
    smallConfig.fault? = none ∧
      exists log t later u, Run (ofConfig smallConfig) log t ∧ Run t later u ∧
        log.map (fun e => e.2)
          = refillUnderWay ++ [.call .shutDown, .retire 0, .reply 1 .stirred] ∧
        later.map (fun e => e.2) = [.reply 0 (.created (.ok ⟨1⟩))] ∧
        Undisturbed log ∧ Undisturbed later ∧ t.pool.phase = .closed ∧ t.pool.idle = [] ∧
        u.pool.idle.length = 1 ∧ u.pool.stats.total = 1 ∧ u.parties = [] ∧
        u.opened = [⟨0⟩, ⟨1⟩] ∧ u.pool.stats.closures = 1 := by
  have hrun : ((ofConfig smallConfig).run
      (refillUnderWay ++ [.call .shutDown, .retire 0, .reply 1 .stirred])).any
      (fun t => t.pool.phase = .closed ∧ t.pool.idle = [] ∧
        (t.run [.reply 0 (.created (.ok ⟨1⟩))]).any
          (fun u => u.pool.idle.length = 1 ∧ u.pool.stats.total = 1 ∧ u.parties = [] ∧
            u.opened = [⟨0⟩, ⟨1⟩] ∧ u.pool.stats.closures = 1) = true) = true := by
    decide +kernel
  rcases exists_run_of_any hrun with ⟨log, t, h, hactions, hend⟩
  rcases of_decide_eq_true hend with ⟨hclosed, hidle, hmore⟩
  rcases exists_run_of_any hmore with ⟨later, u, hlater, hlast, hleft⟩
  exact ⟨by decide +kernel, log, t, later, u, h, hlater, hactions, hlast,
    undisturbed_of_all hactions rfl, undisturbed_of_all hlast rfl, hclosed, hidle,
    of_decide_eq_true hleft⟩

/-- A pool that is shut down while nobody checks it stays empty. -/
theorem closed_pool_emptied_alone :
    exists log t, Run (ofConfig smallConfig) log t ∧
      log.map (fun e => e.2)
        = [.call .warmUp, .reply 0 (.created (.ok ⟨0⟩)), .call .shutDown, .retire 0,
          .reply 0 .stirred, .reply 0 (.closed (.ok ()))] ∧
      t.opened = [⟨0⟩] ∧ t.parties = [] ∧
      forall later u, Run t later u -> Undisturbed later -> u.Emptied (log ++ later) := by
  have hrun : ((ofConfig smallConfig).run
      [.call .warmUp, .reply 0 (.created (.ok ⟨0⟩)), .call .shutDown, .retire 0,
        .reply 0 .stirred, .reply 0 (.closed (.ok ()))]).any
      (fun t => t.pool.phase = .closed ∧ t.pool.idle = [] ∧ t.opened = [⟨0⟩] ∧ t.parties = [])
      = true := by
    decide +kernel
  rcases exists_run_of_any hrun with ⟨log, t, h, hactions, hend⟩
  rcases of_decide_eq_true hend with ⟨hclosed, hidle, hopened, hnobody⟩
  refine ⟨log, t, h, hactions, hopened, hnobody, ?_⟩
  refine (closed_pool_emptied_iff h hclosed).1.mpr ⟨hidle, ?_⟩
  intro x hx
  rw [hnobody] at hx
  cases hx

end Traffic
end PoolHealth
