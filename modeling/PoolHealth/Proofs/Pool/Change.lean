import PoolHealth.Proofs.Pool.Token
import Mathlib.Tactic.Abel

/-!
# Changes of a pool

A call of a pool does several things between two of its waits.  Each of them changes the
pool and the tokens of whoever does it, and none of them asks for tokens of anybody
else.  The changes are listed here, one for each thing that a call can do; that calls do
nothing else is shown in the module that follows.

An invariant of pools and tokens holds throughout if every change keeps it.
-/

namespace PoolHealth

namespace PoolEvent

def dues : PoolEvent -> List Connection
  | closeLater c => [c]
  | _ => []

end PoolEvent

namespace ConnectionPool

/-- The connections that are to be closed in the background, and for which no task has
begun. -/
def dues (p : ConnectionPool) : List Connection := p.outbox.flatMap PoolEvent.dues

/-- The pool after an idle connection was taken behind expired ones; the rest stays. -/
def afterPick (p : ConnectionPool) (expired : Nat) (rest : List IdleConnection) :
    ConnectionPool :=
  addActive { (p.recordClosures expired).dropIdle (expired + 1) with idle := rest }

def afterSweep (p : ConnectionPool) : ConnectionPool :=
  { (p.recordClosures p.idle.length).dropIdle p.idle.length with idle := [] }

end ConnectionPool

/-!
## Operations as updates of the state
-/

namespace ConnectionPool

theorem emit?_eq (p : ConnectionPool) (e : Option PoolEvent) :
    p.emit? e = { p with outbox := p.outbox ++ e.toList } := by
  cases e with
  | none =>
      show p = { p with outbox := p.outbox ++ [] }
      rw [List.append_nil]
  | some e =>
      rfl

theorem releaseSlot_eq (p : ConnectionPool) :
    p.releaseSlot =
      { p with
        slots := p.slots.release
        outbox := p.outbox ++ (p.slots.successor?.map PoolEvent.slotStirred).toList } :=
  emit?_eq _ _

theorem leaveSlotQueue_eq (p : ConnectionPool) (t : Ticket) :
    p.leaveSlotQueue t =
      { p with
        slots := p.slots.leave t
        outbox :=
          p.outbox ++ ((p.slots.successorOnLeave? t).map PoolEvent.slotStirred).toList } :=
  emit?_eq _ _

theorem releaseLock_eq (p : ConnectionPool) :
    p.releaseLock =
      { p with
        lifecycle := p.lifecycle.release
        outbox := p.outbox ++ (p.lifecycle.successor?.map PoolEvent.lockPassed).toList } :=
  emit?_eq _ _

theorem leaveLockQueue_eq (p : ConnectionPool) (t : Ticket) :
    p.leaveLockQueue t =
      { p with
        lifecycle := p.lifecycle.leave t
        outbox :=
          p.outbox ++ ((p.lifecycle.successorOnLeave? t).map PoolEvent.lockPassed).toList } :=
  emit?_eq _ _

theorem giveBack_of_isReusable {p : ConnectionPool} {now : Instant} {l : Lease}
    (h : p.isReusable now l = true) (background : Bool) :
    p.giveBack now l background =
      (p.dropActive.pushIdle ⟨l.connection, l.createdAt, now⟩).releaseSlot := by
  unfold giveBack
  rw [h]
  rfl

theorem giveBack_background {p : ConnectionPool} {now : Instant} {l : Lease}
    (h : p.isReusable now l = false) :
    p.giveBack now l true =
      ((p.dropActive.recordClosures 1).emit (.closeLater l.connection)).releaseSlot := by
  unfold giveBack
  rw [h]
  rfl

theorem giveBack_foreground {p : ConnectionPool} {now : Instant} {l : Lease}
    (h : p.isReusable now l = false) :
    p.giveBack now l false = (p.dropActive.recordClosures 1).releaseSlot := by
  unfold giveBack
  rw [h]
  rfl

/-- Whether or not it can be lent again, a connection that is given back concerns the idle ones,
the counters, the slots and what is to be done about it. -/
theorem giveBack_eq (p : ConnectionPool) (now : Instant) (l : Lease) (background : Bool) :
    p.giveBack now l background =
      { p with
        slots := p.slots.release
        idle := p.idle ++ if p.isReusable now l then [⟨l.connection, l.createdAt, now⟩] else []
        stats :=
          if p.isReusable now l then
            { p.stats with active := p.stats.active - 1, idle := p.stats.idle + 1 }
          else (p.dropActive.recordClosures 1).stats
        audit :=
          if p.isReusable now l then p.dropActive.audit
          else (p.dropActive.recordClosures 1).audit
        outbox :=
          (p.outbox ++
              if p.isReusable now l || !background then [] else [.closeLater l.connection]) ++
            (p.slots.successor?.map PoolEvent.slotStirred).toList } := by
  cases hkept : p.isReusable now l with
  | true =>
      rw [giveBack_of_isReusable hkept, releaseSlot_eq]
      simp [dropActive, pushIdle]
  | false =>
      cases background with
      | true =>
          rw [giveBack_background hkept, releaseSlot_eq]
          simp [dropActive, recordClosures, emit]
      | false =>
          rw [giveBack_foreground hkept, releaseSlot_eq]
          simp [dropActive, recordClosures]

theorem takeExpired_eq (p : ConnectionPool) (now : Instant) :
    p.takeExpired now =
      ({ p.recordClosures (p.idle.filter (isExpired p.config now)).length with
          idle := p.idle.filter fun e => !isExpired p.config now e
          stats :=
            { (p.recordClosures (p.idle.filter (isExpired p.config now)).length).stats with
              idle := (p.idle.filter fun e => !isExpired p.config now e).length } },
        (p.idle.filter (isExpired p.config now)).map (·.connection)) := by
  unfold takeExpired
  rw [List.partition_eq_filter_filter]
  rfl

theorem length_takeExpired (p : ConnectionPool) (now : Instant) :
    (p.idle.filter (isExpired p.config now)).length
        + (p.idle.filter fun e => !isExpired p.config now e).length = p.idle.length :=
  (List.length_eq_length_filter_add (isExpired p.config now)).symm

theorem foldl_recordCreation (opened : List Connection) (p : ConnectionPool) :
    opened.foldl (fun p _ => p.recordCreation) p =
      { p with
        stats :=
          { p.stats with
            creations := p.stats.creations + opened.length
            total := p.stats.total + opened.length
            peak :=
              if opened = [] then p.stats.peak
              else max p.stats.peak (p.stats.total + opened.length) }
        audit :=
          { p.audit with
            summit :=
              if opened = [] then p.audit.summit
              else max p.audit.summit (p.stats.total + opened.length) } } := by
  induction opened generalizing p with
  | nil =>
      rfl
  | cons c rest ih =>
      rw [List.foldl_cons, ih]
      have hlength : forall n, n + 1 + rest.length = n + (rest.length + 1) := by
        intro n
        omega
      by_cases hrest : rest = []
      · subst hrest
        rfl
      · have hmax : forall m n, max (max m (n + 1)) (n + (rest.length + 1))
            = max m (n + (rest.length + 1)) := by
          intro m n
          omega
        simp [hrest, recordCreation, PoolStats.recordPeak, Audit.reach, hlength, hmax]

end ConnectionPool

theorem WarmUp.furnish_eq (p : ConnectionPool) (now : Instant) (opened : List Connection) :
    WarmUp.furnish p now opened =
      { p with
        phase := .ready
        maintained := true
        idle := p.idle ++ opened.map fun c => ⟨c, now, now⟩
        stats :=
          { p.stats with
            idle := p.idle.length + opened.length
            creations := p.stats.creations + opened.length
            total := p.stats.total + opened.length
            peak :=
              if opened = [] then p.stats.peak
              else max p.stats.peak (p.stats.total + opened.length) }
        audit :=
          { p.audit with
            summit :=
              if opened = [] then p.audit.summit
              else max p.audit.summit (p.stats.total + opened.length) }
        outbox := p.outbox ++ [.maintenanceStarted] } := by
  unfold furnish
  rw [ConnectionPool.foldl_recordCreation]
  simp [ConnectionPool.emit]

open ConnectionPool Token

/-- What is taken for granted about a run. -/
structure Law where
  /-- In which pools a connection may be opened by a checkout that found none before it
  closed the expired ones. -/
  late : ConnectionPool -> Prop := fun _ => True
  drops : Prop := True

def Law.any : Law := {}

def Law.undisturbed : Law where
  drops := False

def Law.lateIn (pools : ConnectionPool -> Prop) : Law where
  late := pools
  drops := False

/-- One change of a pool, together with the tokens that it takes and those that it
gives. -/
inductive Change (law : Law) (now : Instant) :
    ConnectionPool -> Multiset Token -> ConnectionPool -> Multiset Token -> Prop where
  | take {p : ConnectionPool} {slots : Semaphore} (hready : p.isReady = true)
      (htaken : p.slots.tryTake = .taken slots) :
      Change law now p 0 { p with slots := slots } {.slot .bare}
  | line {p : ConnectionPool} (hready : p.isReady = true)
      (hfull : p.slots.tryTake = .noneFree) :
      Change law now p 0 { p.addWaiter with slots := p.slots.wait } {.queued}
  | called {p : ConnectionPool} {t : Ticket} (hturn : p.slots.standing t = .promised) :
      Change law now p {.queued} { p with slots := p.slots.collect t }
        ({.queued} + {.slot .bare})
  | leaveLine (p : ConnectionPool) (t : Ticket) :
      Change law now p {.queued} (p.leaveSlotQueue t) {.queued}
  | unline (p : ConnectionPool) : Change law now p {.queued} p.dropWaiter 0
  | handBack (p : ConnectionPool) : Change law now p {.slot .bare} p.releaseSlot 0
  /-- A live connection was found behind expired ones. -/
  | found {p : ConnectionPool} {expired rest : List IdleConnection} {e : IdleConnection}
      (hidle : p.idle = expired ++ e :: rest)
      (hexpired : forall x, x ∈ expired -> isExpired p.config now x = true)
      (hlive : isExpired p.config now e = false) :
      Change law now p {.slot .bare} (p.afterPick expired.length rest)
        ({.lent e.connection} + doomed (expired.map (·.connection)))
  | foundNone {p : ConnectionPool} (hsome : p.idle ≠ [])
      (hexpired : forall x, x ∈ p.idle -> isExpired p.config now x = true) :
      Change law now p {.slot .bare} p.afterSweep
        ({.slot .stale} + doomed (p.idle.map (·.connection)))
  | openAtOnce {p : ConnectionPool} (hnone : p.idle = []) :
      Change law now p {.slot .bare} p.afterSweep.addPending {.slot .opening}
  | openLate {p : ConnectionPool} (hlate : law.late p) :
      Change law now p {.slot .stale} p.addPending {.slot .opening}
  | settle (p : ConnectionPool) : Change law now p {.slot .stale} p {.slot .bare}
  | evict (p : ConnectionPool) :
      Change law now p {.checking} (p.takeExpired now).1
        ({.checking} + doomed (p.takeExpired now).2)
  | land (p : ConnectionPool) (c : Connection) :
      Change law now p ({.slot .opening} + {.raw c .pending})
        p.recordCreation.addActive.dropPending {.lent c}
  | openFailed (p : ConnectionPool) :
      Change law now p {.slot .opening} p.dropPending.releaseSlot 0
  | reserve {p : ConnectionPool} {slots : Semaphore}
      (hmin : p.stats.total + p.pending < p.config.minSize.toNat)
      (hmax : p.stats.total + p.pending < p.config.maxSize.toNat)
      (htaken : p.slots.tryTake = .taken slots) :
      Change law now p {.checking} { p.addPending with slots := slots }
        ({.checking} + {.slot .refilling})
  | landIdle (p : ConnectionPool) (c : Connection) :
      Change law now p ({.slot .refilling} + {.raw c .pending})
        ((p.recordCreation.pushIdle ⟨c, now, now⟩).releaseSlot.dropPending) 0
  | refillFailed (p : ConnectionPool) :
      Change law now p {.slot .refilling} p.releaseSlot.dropPending 0
  | reject (p : ConnectionPool) (c : Connection) :
      Change law now p {.lent c} (p.dropActive.recordClosures 1)
        ({.slot .bare} + {.retired c .pending})
  | giveBack {p : ConnectionPool} {l : Lease} {background : Bool}
      (h : (background || p.isReusable now l) = true) :
      Change law now p {.lent l.connection} (p.giveBack now l background) 0
  | strand {p : ConnectionPool} {l : Lease} (h : p.isReusable now l = false) :
      Change law now p {.lent l.connection} (p.giveBack now l false)
        {.retired l.connection .lost}
  | hand (p : ConnectionPool) (c : Connection) :
      Change law now p {.retired c .pending} p {.retired c .passed}
  | handRaw (p : ConnectionPool) (c : Connection) :
      Change law now p {.raw c .pending} p {.raw c .passed}
  | note (p : ConnectionPool) : Change law now p 0 { p with outbox := [] } (doomed p.dues)
  | error (p : ConnectionPool) : Change law now p 0 (p.recordError now) 0
  | hit (p : ConnectionPool) : Change law now p 0 p.recordHit 0
  | wait (p : ConnectionPool) (d : Duration) : Change law now p 0 (p.recordWait d) 0
  | exhaustion (p : ConnectionPool) : Change law now p 0 p.recordExhaustion 0
  | verdict (p : ConnectionPool) (healthy : Bool) :
      Change law now p 0 (Checkup.report p now healthy) 0
  | check {p : ConnectionPool} (hready : p.isReady = true) :
      Change law now p 0 p {.checking}
  | checked (p : ConnectionPool) : Change law now p {.checking} p 0
  | lock {p : ConnectionPool} {lock : Semaphore} (htaken : p.lifecycle.tryTake = .taken lock) :
      Change law now p 0 { p with lifecycle := lock } {.lock .entering}
  | lineForLock (p : ConnectionPool) :
      Change law now p 0 { p with lifecycle := p.lifecycle.wait } 0
  | calledForLock {p : ConnectionPool} {t : Ticket} (hturn : p.lifecycle.standing t = .promised) :
      Change law now p 0 { p with lifecycle := p.lifecycle.collect t } {.lock .entering}
  | leaveLockLine (p : ConnectionPool) (t : Ticket) :
      Change law now p 0 (p.leaveLockQueue t) 0
  | unlock (p : ConnectionPool) : Change law now p {.lock .entering} p.releaseLock 0
  | warm {p : ConnectionPool} (hready : p.phase ≠ .ready) (hclosed : p.phase ≠ .closed) :
      Change law now p {.lock .entering} (p.setPhase .initializing) {.lock .warming}
  | warmed {p : ConnectionPool} {opened : List Connection}
      (hfew : opened.length ≤ p.config.minSize.toNat) :
      Change law now p ({.lock .warming} + raws opened) (WarmUp.furnish p now opened)
        {.lock .entering}
  | cooled (p : ConnectionPool) :
      Change law now p {.lock .warming} (p.setPhase .uninitialized) {.lock .entering}
  | closeUnused {p : ConnectionPool} (hphase : p.phase = .uninitialized) :
      Change law now p {.lock .entering} (p.closeSlots.setPhase .closed) {.lock .entering}
  | shut {p : ConnectionPool} (hunused : p.phase ≠ .uninitialized) (hclosed : p.phase ≠ .closed) :
      Change law now p {.lock .entering} (p.setPhase .shuttingDown) {.lock .shutting}
  | tellMaintenance (p : ConnectionPool) :
      Change law now p {.lock .shutting} (emit { p with maintained := false } .maintenanceStopping)
        {.lock .shutting}
  | drain (p : ConnectionPool) :
      Change law now p {.lock .shutting} p.closeSlots.takeAllIdle.1
        ({.lock .draining} + doomed p.closeSlots.takeAllIdle.2)
  | drained (p : ConnectionPool) :
      Change law now p {.lock .draining} (p.setPhase .closed) {.lock .entering}
  /-- Somebody is dropped who has a connection that counts as on loan. -/
  | forget (p : ConnectionPool) (c : Connection) (hdrops : law.drops) :
      Change law now p {.lent c} p.releaseSlot {.forgotten c}
  | lose (p : ConnectionPool) (c : Connection) (hdrops : law.drops) :
      Change law now p {.retired c .pending} p {.retired c .lost}
  | loseRaw (p : ConnectionPool) (c : Connection) (hdrops : law.drops) :
      Change law now p {.raw c .pending} p {.raw c .lost}
  | abandonLock (p : ConnectionPool) (u : LockUse) (hdrops : law.drops) :
      Change law now p {.lock u} p.releaseLock 0

variable {law : Law} {now : Instant} {p q r : ConnectionPool} {A B C F : Multiset Token}

theorem Change.config_eq (h : Change law now p A q B) : q.config = p.config := by
  cases h with
  | handBack | forget | openFailed | refillFailed | landIdle =>
      simp [releaseSlot_eq, recordCreation, pushIdle, dropPending]
  | giveBack | strand =>
      rw [giveBack_eq]
  | leaveLine =>
      rw [leaveSlotQueue_eq]
  | leaveLockLine =>
      rw [leaveLockQueue_eq]
  | unlock | abandonLock =>
      rw [releaseLock_eq]
  | warmed =>
      rw [WarmUp.furnish_eq]
  | _ =>
      rfl

/-- Changes one after another, by somebody who holds tokens and may leave some of them
alone. -/
inductive Changes (law : Law) (now : Instant) :
    ConnectionPool -> Multiset Token -> ConnectionPool -> Multiset Token -> Prop where
  | refl (p : ConnectionPool) (A : Multiset Token) : Changes law now p A p A
  | step {p q r : ConnectionPool} {A B C : Multiset Token} (F : Multiset Token)
      (hfirst : Change law now p A q B) (hrest : Changes law now q (B + F) r C) :
      Changes law now p (A + F) r C

namespace Changes

theorem one (h : Change law now p A q B) : Changes law now p A q B := by
  have hlast : Changes law now q (B + 0) q (B + 0) := Changes.refl q (B + 0)
  have hstep : Changes law now p (A + 0) q (B + 0) := Changes.step 0 h hlast
  rw [add_zero, add_zero] at hstep
  exact hstep

theorem trans (h : Changes law now p A q B) (h' : Changes law now q B r C) :
    Changes law now p A r C := by
  induction h with
  | refl =>
      exact h'
  | step F hfirst _ ih =>
      exact Changes.step F hfirst (ih h')

theorem frame (h : Changes law now p A q B) (F : Multiset Token) :
    Changes law now p (A + F) q (B + F) := by
  induction h with
  | refl p A =>
      exact Changes.refl p (A + F)
  | step G hfirst _ ih =>
      rw [add_assoc]
      apply Changes.step (G + F) hfirst
      rw [← add_assoc]
      exact ih

theorem cast {A' B' : Multiset Token} (h : Changes law now p A q B) (hA : A' = A)
    (hB : B' = B) : Changes law now p A' q B' := by
  rw [hA, hB]
  exact h

theorem framed {A' B' : Multiset Token} (h : Change law now p A q B) (F : Multiset Token)
    (hA : A' = A + F) (hB : B' = B + F) : Changes law now p A' q B' :=
  ((one h).frame F).cast hA hB

theorem and {A' B' : Multiset Token} (h : Changes law now p A q B) (h' : Change law now q A' r B')
    (F : Multiset Token) (hB : B = A' + F) : Changes law now p A r (B' + F) := by
  have hlast : Changes law now q (A' + F) r (B' + F) := (one h').frame F
  rw [← hB] at hlast
  exact h.trans hlast

/-- What every change keeps holds after any number of them. -/
theorem invariant {I : ConnectionPool -> Multiset Token -> Prop}
    (hkeep : forall {p q : ConnectionPool} {A B : Multiset Token} (F : Multiset Token),
      Change law now p A q B -> I p (A + F) -> I q (B + F))
    (h : Changes law now p A q B) (hp : I p A) : I q B := by
  induction h with
  | refl =>
      exact hp
  | step F hfirst _ ih =>
      exact ih (hkeep F hfirst hp)

theorem config_eq (h : Changes law now p A q B) : q.config = p.config := by
  induction h with
  | refl =>
      rfl
  | step F hfirst _ ih =>
      rw [ih]
      exact hfirst.config_eq

end Changes
end PoolHealth
