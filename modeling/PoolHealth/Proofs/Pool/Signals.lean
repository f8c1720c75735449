import PoolHealth.Proofs.Pool.CallDeeds

/-!
# Signals to maintenance

Maintenance is told to begin when a pool has been set up, and to end when it is shut down.
Nobody else gives such a signal: not those who check connections out, and not maintenance
itself when it checks the pool.
-/

namespace PoolHealth

open ConnectionPool

namespace PoolEvent

def isSignal : PoolEvent -> Bool
  | maintenanceStarted | maintenanceStopping => true
  | slotStirred _ | lockPassed _ | closeLater _ | measured _ => false

end PoolEvent

namespace ConnectionPool

def signals (p : ConnectionPool) : List PoolEvent := p.outbox.filter PoolEvent.isSignal

variable {p : ConnectionPool} {now : Instant}

theorem signals_of_outbox (h : p.outbox = []) : p.signals = [] := by
  unfold signals
  rw [h]
  rfl

theorem signals_append {q : ConnectionPool} {events : List PoolEvent}
    (h : q.outbox = p.outbox ++ events)
    (hevents : forall e, e ∈ events -> e.isSignal = false) : q.signals = p.signals := by
  have hnone : events.filter PoolEvent.isSignal = [] := by
    rw [List.filter_eq_nil_iff]
    intro e he
    rw [hevents e he]
    exact Bool.false_ne_true
  unfold signals
  rw [h, List.filter_append, hnone, List.append_nil]

theorem signals_of_called {q : ConnectionPool} {ticket? : Option Ticket}
    {called : Ticket -> PoolEvent} (h : q.outbox = p.outbox ++ (ticket?.map called).toList)
    (hcalled : forall t, (called t).isSignal = false) : q.signals = p.signals := by
  apply signals_append h
  intro e he
  rcases Option.map_eq_some_iff.mp (Option.mem_toList.mp he) with ⟨t, _, rfl⟩
  exact hcalled t

theorem signals_of_measured {q : ConnectionPool} {r : MetricRecord}
    (h : q.outbox = p.outbox ++ [.measured r]) : q.signals = p.signals := by
  apply signals_append h
  intro e he
  rw [List.mem_singleton.mp he]
  rfl

@[simp] theorem signals_releaseSlot (p : ConnectionPool) : p.releaseSlot.signals = p.signals := by
  rw [releaseSlot_eq]
  exact signals_of_called rfl fun _ => rfl

@[simp] theorem signals_releaseLock (p : ConnectionPool) : p.releaseLock.signals = p.signals := by
  rw [releaseLock_eq]
  exact signals_of_called rfl fun _ => rfl

@[simp] theorem signals_recordError (p : ConnectionPool) (now : Instant) :
    (p.recordError now).signals = p.signals := signals_of_measured rfl

theorem signals_giveBack (p : ConnectionPool) (l : Lease) (background : Bool) :
    (p.giveBack now l background).signals = p.signals := by
  cases hkept : p.isReusable now l with
  | true =>
      rw [giveBack_of_isReusable hkept, signals_releaseSlot]
      rfl
  | false =>
      cases background with
      | true =>
          rw [giveBack_background hkept, signals_releaseSlot]
          apply signals_append rfl
          intro e he
          rw [List.mem_singleton.mp he]
          rfl
      | false =>
          rw [giveBack_foreground hkept, signals_releaseSlot]
          rfl

end ConnectionPool

variable {P : Instant -> Prop} {p q : ConnectionPool} {now : Instant}

theorem Deed.signals_eq {m : Matter} (h : Deed P now m p q) (hm : m ≠ .lifecycle) :
    q.signals = p.signals := by
  cases h with
  | release =>
      exact signals_releaseSlot p
  | evict =>
      rw [takeExpired_eq]
      rfl
  | giveBack _ hdated background =>
      exact signals_giveBack p _ background
  | verdict | error | exhaust | wait =>
      exact signals_of_measured rfl
  | leave t =>
      rw [leaveSlotQueue_eq]
      exact signals_of_called rfl fun _ => rfl
  | closeSlots =>
      apply signals_append rfl
      intro e he
      rcases List.mem_map.mp he with ⟨t, _, rfl⟩
      rfl
  | take | pick | sweep | reserve | vacate | lend | retire | store | «open» | hit | join | collect
  | unline | drain =>
      rfl
  | lock | unlock | leaveLock | turn | furnish | tell =>
      exact absurd rfl hm

theorem Deeds.signals_eq {matters : List Matter} (h : Deeds P now matters p q)
    (hm : .lifecycle ∉ matters) : q.signals = p.signals := by
  refine h.invariant (I := fun q => q.signals = p.signals) ?_ rfl
  intro q r m hmem hdeed hsame
  refine (hdeed.signals_eq ?_).trans hsame
  rintro rfl
  exact hm hmem

theorem Maintenance.signals_step (p : ConnectionPool) (m : Maintenance) (r : Reply) :
    (m.step p now r).1.signals = p.signals :=
  (does_step p.dated_any trivial m.dated_any r).deeds.signals_eq (by decide)

end PoolHealth
