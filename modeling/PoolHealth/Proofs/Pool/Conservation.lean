import PoolHealth.Proofs.Pool.Accounts

/-!
# Nothing is lost

Some sums are the same before and after every change, whatever else is the case.  A
connection that is counted as closed is on its way to the backend, or has been there, or
is known never to get there.  A connection that has been opened is named once, by a
token, among the idle ones, or by an event that waits.  The lifecycle lock is somewhere.
-/

namespace PoolHealth

open ConnectionPool Token

variable {law : Law} {now : Instant} {p q : ConnectionPool} {A B F : Multiset Token}

namespace PoolEvent

@[simp] theorem flatMap_dues_slotStirred (t : Option Ticket) :
    (t.map slotStirred).toList.flatMap dues = [] := by
  cases t with
  | none =>
      rfl
  | some t =>
      rfl

@[simp] theorem flatMap_dues_lockPassed (t : Option Ticket) :
    (t.map lockPassed).toList.flatMap dues = [] := by
  cases t with
  | none =>
      rfl
  | some t =>
      rfl

@[simp] theorem flatMap_dues_stirred (ts : List Ticket) :
    (ts.map slotStirred).flatMap dues = [] := by
  induction ts with
  | nil =>
      rfl
  | cons t rest ih =>
      exact ih

end PoolEvent

namespace ConnectionPool

def idleCount (p : ConnectionPool) (c : Connection) : Nat := (p.idle.map (·.connection)).count c

/-- How often a connection is named by somebody, by the idle ones or by an event. -/
def mentions (p : ConnectionPool) (held : Multiset Token) (c : Connection) : Nat :=
  tally (names c) held + p.idleCount c + p.dues.count c

theorem count_takeExpired (p : ConnectionPool) (now : Instant) (c : Connection) :
    ((p.idle.filter (isExpired p.config now)).map (·.connection)).count c
        + ((p.idle.filter fun e => !isExpired p.config now e).map (·.connection)).count c
      = p.idleCount c := by
  unfold idleCount
  induction p.idle with
  | nil =>
      rfl
  | cons e rest ih =>
      cases hexpired : isExpired p.config now e with
      | true =>
          simp [hexpired, List.count_cons]
          omega
      | false =>
          simp [hexpired, List.count_cons]
          omega

end ConnectionPool

namespace Change

/-- What is counted as closed is held, or an event says that it is to be closed. -/
theorem closures_eq (h : Change law now p A q B) :
    q.stats.closures + tally closures A + p.dues.length
      = p.stats.closures + tally closures B + q.dues.length := by
  cases h with
  | handBack | forget | openFailed | refillFailed | landIdle =>
      rw [releaseSlot_eq]
      simp [dues, recordCreation, PoolStats.recordPeak, pushIdle, dropPending]
  | giveBack hreuse =>
      rename_i l background
      rw [giveBack_eq]
      cases hkept : p.isReusable now l with
      | true =>
          simp [dues]
      | false =>
          rw [hkept, Bool.or_false] at hreuse
          simp [dues, dropActive, recordClosures, PoolEvent.dues, hreuse]
          omega
  | strand hkept =>
      rw [giveBack_eq, hkept]
      simp [dues, dropActive, recordClosures]
  | leaveLine | leaveLockLine | unlock | abandonLock =>
      simp [dues, leaveSlotQueue_eq, leaveLockQueue_eq, releaseLock_eq]
  | found | foundNone | openAtOnce =>
      simp [-List.map_map, dues, afterPick, afterSweep, addActive, addPending, recordClosures,
        dropIdle, *]
  | evict =>
      rw [takeExpired_eq]
      simp [-List.map_map, dues, recordClosures]
  | drain =>
      simp [-List.map_map, dues, takeAllIdle, closeSlots, recordClosures]
  | warmed =>
      rw [WarmUp.furnish_eq]
      simp [dues, PoolEvent.dues]
  | _ =>
      simp [dues, PoolEvent.dues, addWaiter, dropWaiter, addActive, dropActive, addPending,
        dropPending, recordCreation, PoolStats.recordPeak, recordClosures, recordHit, recordError,
        recordExhaustion, recordWait, Checkup.report, emit, setPhase, closeSlots]

/-- A connection is named as often after a change as before. -/
theorem mentions_eq (h : Change law now p A q B) (c : Connection) :
    q.mentions B c = p.mentions A c := by
  cases h with
  | handBack | forget | openFailed | refillFailed =>
      rw [releaseSlot_eq]
      simp [mentions, idleCount, dues, dropPending]
  | landIdle d =>
      rw [releaseSlot_eq]
      simp [mentions, idleCount, dues, recordCreation, pushIdle, dropPending, List.count_singleton]
      omega
  | giveBack hreuse =>
      rename_i l background
      rw [giveBack_eq]
      cases hkept : p.isReusable now l with
      | true =>
          simp [mentions, idleCount, dues, List.count_singleton]
          omega
      | false =>
          rw [hkept, Bool.or_false] at hreuse
          simp [mentions, idleCount, dues, PoolEvent.dues, List.count_singleton, hreuse]
          omega
  | strand hkept =>
      rw [giveBack_eq, hkept]
      simp [mentions, idleCount, dues]
  | leaveLine | leaveLockLine | unlock | abandonLock =>
      simp [mentions, idleCount, dues, leaveSlotQueue_eq, leaveLockQueue_eq, releaseLock_eq]
  | found hsplit =>
      simp [-List.map_map, mentions, idleCount, dues, afterPick, addActive, recordClosures,
        dropIdle, hsplit, List.count_cons]
      omega
  | foundNone | openAtOnce =>
      simp [-List.map_map, mentions, idleCount, dues, afterSweep, addPending, recordClosures,
        dropIdle, *]
  | evict =>
      have hsplit := count_takeExpired p now c
      rw [takeExpired_eq]
      unfold idleCount at hsplit
      simp [-List.map_map, mentions, idleCount, dues, recordClosures]
      omega
  | drain =>
      simp [-List.map_map, mentions, idleCount, dues, takeAllIdle, closeSlots, recordClosures]
  | warmed =>
      rw [WarmUp.furnish_eq]
      simp [mentions, idleCount, dues, PoolEvent.dues, Function.comp_def]
      omega
  | note =>
      simp [mentions, idleCount, dues]
      omega
  | _ =>
      simp [mentions, idleCount, dues, PoolEvent.dues, addWaiter, dropWaiter, addActive, dropActive,
        addPending, dropPending, recordCreation, recordClosures, recordHit, recordError,
        recordExhaustion, recordWait, Checkup.report, emit, setPhase, closeSlots]

theorem locks_eq (h : Change law now p A q B) :
    q.lifecycle.available + tally locks B = p.lifecycle.available + tally locks A := by
  cases h with
  | lock htaken =>
      have havailable := Semaphore.available_of_taken htaken
      simp
      omega
  | calledForLock hturn =>
      have havailable := Semaphore.available_of_promised hturn
      simp
      omega
  | unlock | abandonLock =>
      rw [releaseLock_eq]
      simp [Semaphore.available_release]
  | lineForLock =>
      simp [Semaphore.available_wait]
  | leaveLockLine =>
      rw [leaveLockQueue_eq]
      simp [Semaphore.available_leave]
  | leaveLine =>
      rw [leaveSlotQueue_eq]
  | handBack | forget | openFailed | refillFailed | landIdle =>
      rw [releaseSlot_eq]
      simp [recordCreation, pushIdle, dropPending]
  | giveBack | strand =>
      rw [giveBack_eq]
      simp
  | warmed =>
      rw [WarmUp.furnish_eq]
      simp
  | found | foundNone | openAtOnce | evict | drain =>
      simp [-List.map_map, takeExpired_eq, takeAllIdle, closeSlots, afterPick, afterSweep,
        addActive, addPending, recordClosures, dropIdle]
  | _ =>
      simp [addWaiter, dropWaiter, addActive, dropActive, addPending, dropPending, recordCreation,
        recordClosures, recordHit, recordError, recordExhaustion, recordWait, Checkup.report, emit,
        setPhase, closeSlots]

end Change

theorem Changes.mentions_eq (h : Changes law now p A q B) (c : Connection) :
    q.mentions B c = p.mentions A c := by
  induction h with
  | refl =>
      rfl
  | step F hfirst _ ih =>
      have hsame := hfirst.mentions_eq c
      rw [ih]
      simp only [mentions, tally_add] at hsame ⊢
      omega

namespace Traffic

variable {c : PoolConfig} {t : Traffic} {log : Log}

theorem Settled.dues_eq_nil {s : Traffic} (h : s.Settled) : s.pool.dues = [] := by
  unfold dues
  rw [h.outbox]
  rfl

theorem Run.closures_eq (h : Run (ofConfig c) log t) :
    t.pool.stats.closures = tally closures t.held := by
  have hkept : t.pool.stats.closures = tally closures t.held + t.pool.dues.length := by
    refine h.keeps .any (I := fun p A => p.stats.closures = tally closures A + p.dues.length)
      ?_ ?_ (fun e _ => admits_any e) (settled_ofConfig c) rfl
    · intro now p q A B F hchange hp
      have hsame := hchange.closures_eq
      rw [tally_add] at hp ⊢
      omega
    · intro p A cs hp
      rw [tally_add, tally_raws]
      simpa using hp
  rw [(h.settled (settled_ofConfig c)).dues_eq_nil] at hkept
  exact hkept

theorem Run.mentions_eq (h : Run (ofConfig c) log t) (d : Connection) :
    t.pool.mentions t.held d = t.opened.count d := by
  refine h.invariant (I := fun s => s.Settled ∧ s.pool.mentions s.held d = s.opened.count d)
    ?_ ⟨settled_ofConfig c, rfl⟩ |>.2
  intro s u a hs hstep
  rcases hs with ⟨hsettled, hnamed⟩
  have hchanges : Changes .any s.now s.pool (s.held + raws a.arrivals) u.pool u.held :=
    changes_step hsettled (fun _ => trivial) (fun _ _ => trivial) hstep
  refine ⟨settled_step hsettled hstep, ?_⟩
  calc
    u.pool.mentions u.held d = s.pool.mentions (s.held + raws a.arrivals) d :=
      hchanges.mentions_eq d
    _ = s.pool.mentions s.held d + a.arrivals.count d := by
      simp only [mentions, tally_add, tally_raws, names, sum_map_ite_eq_count]
      omega
    _ = u.opened.count d := by
      rw [hnamed, opened_step hstep, List.count_append]

end Traffic
end PoolHealth
