import PoolHealth.Proofs.Pool.CallDeeds

/-!
# What is counted and reported

A pool counts what happens to it, and it reports some of that to whoever collects measurements.  The
two are done in different places, so it is not plain that they tell the same.

A meter shows both: the counters of the pool, and how many measurements of each kind there are.
Connection errors apart, what a checkout does to it between two of its waits depends on whether it
gets a connection, and on whether one was opened for it.  Each error is counted and reported at
once.  All else that can happen at a pool is quiet.
-/

namespace PoolHealth

open ConnectionPool

def MetricRecord.isOf (kind : MetricKind) (name : String) (r : MetricRecord) : Bool :=
  r.kind == kind && r.name == name

def PoolEvent.measurement? : PoolEvent -> Option MetricRecord
  | measured r => some r
  | slotStirred _ | lockPassed _ | closeLater _ | maintenanceStarted | maintenanceStopping => none

def ConnectionPool.measurements (p : ConnectionPool) : List MetricRecord :=
  p.outbox.filterMap PoolEvent.measurement?

structure Meter where
  errors : Nat
  misses : Nat
  exhaustions : Nat
  hits : Nat
  creations : Nat
  errorsTold : Nat
  exhaustionsTold : Nat
  waitsTold : Nat

def Meter.read (stats : PoolStats) (records : List MetricRecord) : Meter where
  errors := stats.errors
  misses := stats.misses
  exhaustions := stats.exhaustions
  hits := stats.hits
  creations := stats.creations
  errorsTold := records.countP (MetricRecord.isOf .counter Metrics.connectionErrorsTotal)
  exhaustionsTold := records.countP (MetricRecord.isOf .counter Metrics.exhaustionsTotal)
  waitsTold := records.countP (MetricRecord.isOf .observation Metrics.acquireSeconds)

def ConnectionPool.meter (p : ConnectionPool) : Meter := .read p.stats p.measurements

structure Booking where
  exhaustions : Nat := 0
  waits : Nat := 0
  hits : Nat := 0
  creations : Nat := 0

/-- A meter that showed `m` shows `m'` after the booking and some connection errors. -/
structure Books (b : Booking) (m m' : Meter) : Prop where
  errors : m'.errors + m.errorsTold = m.errors + m'.errorsTold
  misses : m'.misses = m.misses + b.exhaustions
  exhaustions : m'.exhaustions = m.exhaustions + b.exhaustions
  exhaustionsTold : m'.exhaustionsTold = m.exhaustionsTold + b.exhaustions
  waitsTold : m'.waitsTold = m.waitsTold + b.waits
  hits : m'.hits = m.hits + b.hits
  creations : m'.creations = m.creations + b.creations

/-- Connections may have been opened, but nobody was served and nobody went away in vain. -/
def Quiet (m m' : Meter) : Prop := exists n, Books { creations := n } m m'

variable {p q : ConnectionPool} {now : Instant} {m m' m'' : Meter} {b b' : Booking}

theorem Books.refl (m : Meter) : Books {} m m :=
  ⟨rfl, rfl, rfl, rfl, rfl, rfl, rfl⟩

theorem Books.trans (h : Books b m m') (h' : Books b' m' m'') :
    Books ⟨b.exhaustions + b'.exhaustions, b.waits + b'.waits, b.hits + b'.hits,
      b.creations + b'.creations⟩ m m'' where
  errors := by
    have hbefore := h.errors
    have hafter := h'.errors
    omega
  misses := by rw [h'.misses, h.misses, Nat.add_assoc]
  exhaustions := by rw [h'.exhaustions, h.exhaustions, Nat.add_assoc]
  exhaustionsTold := by rw [h'.exhaustionsTold, h.exhaustionsTold, Nat.add_assoc]
  waitsTold := by rw [h'.waitsTold, h.waitsTold, Nat.add_assoc]
  hits := by rw [h'.hits, h.hits, Nat.add_assoc]
  creations := by rw [h'.creations, h.creations, Nat.add_assoc]

theorem Quiet.trans (h : Quiet m m') (h' : Quiet m' m'') : Quiet m m'' := by
  rcases h with ⟨n, hbooks⟩
  rcases h' with ⟨n', hbooks'⟩
  exact ⟨n + n', hbooks.trans hbooks'⟩

theorem Quiet.of_eq (h : m' = m) : Quiet m m' := by
  rw [h]
  exact ⟨0, Books.refl m⟩

theorem Books.collected {stats stats' : PoolStats} {fresh : List MetricRecord}
    (h : Books b (.read stats []) (.read stats' fresh)) (records : List MetricRecord) :
    Books b (.read stats records) (.read stats' (records ++ fresh)) := by
  rcases h with ⟨herrors, hmisses, hexhaustions, hexhausted, hwaits, hhits, hcreations⟩
  simp only [Meter.read, List.countP_nil, Nat.zero_add, Nat.add_zero] at *
  constructor
  · simp only [List.countP_append]
    omega
  · exact hmisses
  · exact hexhaustions
  · simp only [List.countP_append]
    omega
  · simp only [List.countP_append]
    omega
  · exact hhits
  · exact hcreations

/-!
## Changes at once
-/

namespace ConnectionPool

theorem measurements_of_outbox (h : p.outbox = []) : p.measurements = [] := by
  unfold measurements
  rw [h]
  rfl

theorem meter_of_silent {events : List PoolEvent} (hstats : q.stats = p.stats)
    (houtbox : q.outbox = p.outbox ++ events)
    (hsilent : forall e, e ∈ events -> e.measurement? = none) : q.meter = p.meter := by
  have hnone : events.filterMap PoolEvent.measurement? = [] :=
    List.filterMap_eq_nil_iff.mpr hsilent
  unfold meter measurements
  rw [hstats, houtbox, List.filterMap_append, hnone, List.append_nil]

theorem measurements_concat {r : MetricRecord} (houtbox : q.outbox = p.outbox ++ [.measured r]) :
    q.measurements = p.measurements ++ [r] := by
  unfold measurements
  rw [houtbox, List.filterMap_append]
  rfl

theorem meter_of_called {ticket? : Option Ticket} {called : Ticket -> PoolEvent}
    (hstats : q.stats = p.stats) (houtbox : q.outbox = p.outbox ++ (ticket?.map called).toList)
    (hsilent : forall t, (called t).measurement? = none) : q.meter = p.meter := by
  apply meter_of_silent hstats houtbox
  intro e he
  rcases Option.map_eq_some_iff.mp (Option.mem_toList.mp he) with ⟨t, _, rfl⟩
  exact hsilent t

@[simp] theorem meter_releaseSlot (p : ConnectionPool) : p.releaseSlot.meter = p.meter := by
  rw [releaseSlot_eq]
  exact meter_of_called rfl rfl fun _ => rfl

@[simp] theorem meter_leaveSlotQueue (p : ConnectionPool) (t : Ticket) :
    (p.leaveSlotQueue t).meter = p.meter := by
  rw [leaveSlotQueue_eq]
  exact meter_of_called rfl rfl fun _ => rfl

@[simp] theorem meter_releaseLock (p : ConnectionPool) : p.releaseLock.meter = p.meter := by
  rw [releaseLock_eq]
  exact meter_of_called rfl rfl fun _ => rfl

@[simp] theorem meter_leaveLockQueue (p : ConnectionPool) (t : Ticket) :
    (p.leaveLockQueue t).meter = p.meter := by
  rw [leaveLockQueue_eq]
  exact meter_of_called rfl rfl fun _ => rfl

@[simp] theorem meter_closeSlots (p : ConnectionPool) : p.closeSlots.meter = p.meter := by
  refine meter_of_silent rfl rfl ?_
  intro e he
  rcases List.mem_map.mp he with ⟨t, _, rfl⟩
  rfl

theorem meter_emit {e : PoolEvent} (p : ConnectionPool) (hsilent : e.measurement? = none) :
    (p.emit e).meter = p.meter := by
  refine meter_of_silent rfl rfl ?_
  intro d hd
  rw [List.mem_singleton.mp hd]
  exact hsilent

theorem meter_giveBack (p : ConnectionPool) (l : Lease) (background : Bool) :
    (p.giveBack now l background).meter = p.meter := by
  cases hkept : p.isReusable now l with
  | true =>
      rw [giveBack_of_isReusable hkept, meter_releaseSlot]
      rfl
  | false =>
      cases background with
      | true =>
          rw [giveBack_background hkept, meter_releaseSlot, meter_emit _ rfl]
          rfl
      | false =>
          rw [giveBack_foreground hkept, meter_releaseSlot]
          rfl

theorem meter_report (p : ConnectionPool) (now : Instant) (healthy : Bool) :
    (Checkup.report p now healthy).meter = p.meter := by
  unfold Checkup.report meter
  rw [measurements_concat (p := p) rfl]
  simp [Meter.read, ConnectionPool.emit, MetricRecord.isOf, MetricRecord.setGauge]

theorem quiet_furnish (p : ConnectionPool) (opened : List Connection) :
    Quiet p.meter (WarmUp.furnish p now opened).meter := by
  refine ⟨opened.length, ?_⟩
  unfold WarmUp.furnish
  rw [meter_emit _ rfl, foldl_recordCreation]
  exact ⟨rfl, rfl, rfl, rfl, rfl, rfl, rfl⟩

end ConnectionPool

namespace Books

theorem recordError (h : Books b m p.meter) (now : Instant) :
    Books b m (p.recordError now).meter := by
  have hmeter : (p.recordError now).meter
      = { p.meter with
          errors := p.meter.errors + 1, errorsTold := p.meter.errorsTold + 1 } := by
    unfold meter
    rw [measurements_concat (p := p) rfl]
    simp [Meter.read, ConnectionPool.recordError, MetricRecord.isOf, MetricRecord.increment,
      Metrics.connectionErrorsTotal, Metrics.exhaustionsTotal]
  have herrors := h.errors
  rw [hmeter]
  refine ⟨?_, h.misses, h.exhaustions, h.exhaustionsTold, h.waitsTold, h.hits, h.creations⟩
  show p.meter.errors + 1 + m.errorsTold = m.errors + (p.meter.errorsTold + 1)
  omega

theorem recordExhaustion (h : Books b m p.meter) :
    Books { b with exhaustions := b.exhaustions + 1 } m p.recordExhaustion.meter := by
  have hmeter : p.recordExhaustion.meter
      = { p.meter with
          misses := p.meter.misses + 1, exhaustions := p.meter.exhaustions + 1,
          exhaustionsTold := p.meter.exhaustionsTold + 1 } := by
    unfold meter
    rw [measurements_concat (p := p) rfl]
    simp [Meter.read, ConnectionPool.recordExhaustion, MetricRecord.isOf, MetricRecord.increment,
      Metrics.connectionErrorsTotal, Metrics.exhaustionsTotal]
  rw [hmeter]
  exact ⟨h.errors, congrArg Nat.succ h.misses, congrArg Nat.succ h.exhaustions,
    congrArg Nat.succ h.exhaustionsTold, h.waitsTold, h.hits, h.creations⟩

theorem recordWait (h : Books b m p.meter) (wait : Duration) :
    Books { b with waits := b.waits + 1 } m (p.recordWait wait).meter := by
  have hmeter : (p.recordWait wait).meter
      = { p.meter with waitsTold := p.meter.waitsTold + 1 } := by
    unfold meter
    rw [measurements_concat (p := p) rfl]
    simp [Meter.read, ConnectionPool.recordWait, MetricRecord.isOf, MetricRecord.observe]
  rw [hmeter]
  exact ⟨h.errors, h.misses, h.exhaustions, h.exhaustionsTold, congrArg Nat.succ h.waitsTold,
    h.hits, h.creations⟩

theorem recordHit (h : Books b m p.meter) :
    Books { b with hits := b.hits + 1 } m p.recordHit.meter :=
  ⟨h.errors, h.misses, h.exhaustions, h.exhaustionsTold, h.waitsTold, congrArg Nat.succ h.hits,
    h.creations⟩

theorem recordCreation (h : Books b m p.meter) :
    Books { b with creations := b.creations + 1 } m p.recordCreation.meter :=
  ⟨h.errors, h.misses, h.exhaustions, h.exhaustionsTold, h.waitsTold, h.hits,
    congrArg Nat.succ h.creations⟩

end Books

/-!
## Deeds
-/

section Deeds

variable {P : Instant -> Prop} {matter : Matter} {matters : List Matter}

theorem Deed.books (h : Deed P now matter p q) (hplain : matter ∈ Matter.plain) :
    Books {} p.meter q.meter := by
  cases h with
  | release =>
      rw [meter_releaseSlot]
      exact .refl _
  | evict =>
      rw [takeExpired_eq]
      exact .refl _
  | giveBack _ hdated background =>
      rw [meter_giveBack]
      exact .refl _
  | verdict =>
      rw [meter_report]
      exact .refl _
  | error =>
      exact (Books.refl p.meter).recordError now
  | take | pick | sweep | reserve | vacate | lend | retire | store =>
      exact .refl _
  | «open» | hit | wait | exhaust | join | collect | leave | unline | lock | unlock | leaveLock
  | turn | furnish | tell | closeSlots | drain =>
      exact absurd hplain (by decide)

theorem Deed.quiet (h : Deed P now matter p q) (hquiet : matter ≠ .account) :
    Quiet p.meter q.meter := by
  by_cases hplain : matter ∈ Matter.plain
  · exact ⟨0, h.books hplain⟩
  · cases h with
    | «open» =>
        exact ⟨1, (Books.refl p.meter).recordCreation⟩
    | leave =>
        exact .of_eq (meter_leaveSlotQueue p _)
    | unlock =>
        exact .of_eq (meter_releaseLock p)
    | leaveLock =>
        exact .of_eq (meter_leaveLockQueue p _)
    | furnish _ hnow opened =>
        exact quiet_furnish p opened
    | tell =>
        exact .of_eq (meter_emit _ rfl)
    | closeSlots =>
        exact .of_eq (meter_closeSlots p)
    | join | collect | unline | lock | turn | drain =>
        exact .of_eq rfl
    | hit | wait | exhaust =>
        exact absurd rfl hquiet
    | take | release | pick | sweep | evict | reserve | vacate | lend | retire | store | giveBack
    | verdict | error =>
        exact absurd (by decide) hplain

/-- Only errors show on the meter if nobody opens a connection. -/
theorem Deeds.books (h : Deeds P now matters p q) (hsub : matters ⊆ Matter.plain) :
    Books {} p.meter q.meter := by
  refine h.invariant (I := fun q => Books {} p.meter q.meter) ?_ (.refl _)
  intro q r matter hmem hdeed hbooks
  exact hbooks.trans (hdeed.books (hsub hmem))

theorem Deeds.quiet (h : Deeds P now matters p q) (hquiet : .account ∉ matters) :
    Quiet p.meter q.meter := by
  refine h.invariant (I := fun q => Quiet p.meter q.meter) ?_ (.of_eq rfl)
  intro q r matter hmem hdeed hbefore
  apply hbefore.trans (hdeed.quiet ?_)
  rintro rfl
  exact hquiet hmem

end Deeds

/-!
## Checkouts
-/

namespace Checkout

def booking (purpose : CheckoutPurpose) (arrivals : List Connection) :
    Progress Checkout (Except PoolError Lease) -> Booking
  | .done (.ok _) =>
      { hits := if arrivals = [] ∧ purpose = .caller then 1 else 0, creations := arrivals.length }
  | .done (.error _) | .waiting _ => {}

theorem books_search (p : ConnectionPool) (now : Instant) :
    Books {} p.meter (search p now).1.meter :=
  (does_search p.dated_any).deeds.books (List.Subset.refl _)

theorem books_pursue (p : ConnectionPool) (candidate : Option IdleConnection) :
    Books {} p.meter (pursue p candidate).1.meter := by
  cases candidate with
  | none | some e =>
      exact .refl _

theorem books_step (purpose : CheckoutPurpose) (p : ConnectionPool) (now : Instant) (k : Checkout)
    (r : Reply) :
    Books (booking purpose r.arrivals (k.step purpose p now r).2) p.meter
      (k.step purpose p now r).1.meter := by
  have hopening : forall o q progress, Opening.step p now o r = (q, progress) ->
      Books {} p.meter q.meter := by
    intro o q progress hstep
    have hdeeds : Deeds (fun _ => True) now Matter.plain p q :=
      Opening.deeds_of_step (by decide) hstep
    exact hdeeds.books (List.Subset.refl _)
  have honward := onward purpose p now k r
  generalize k.step purpose p now r = after at honward ⊢
  cases honward with
  | next hclosed | still hunfit =>
      exact .refl _
  | pursue hclosed =>
      exact books_pursue p _
  | accept l =>
      cases purpose with
      | caller =>
          exact (Books.refl p.meter).recordHit
      | healthCheck =>
          exact .refl _
  | reject hbad =>
      exact (Books.refl (p.dropActive.recordClosures 1).meter).recordError now
  | search hclosed =>
      exact books_search p now
  | again hstep =>
      exact hopening _ _ _ hstep
  | @land _ _ q _ hstep =>
      have hbefore : Books {} p.meter q.meter := hopening _ _ _ hstep
      rcases Opening.cases_of_done (congrArg Prod.snd hstep) with
        ⟨c, rfl, rfl⟩ | ⟨name, source, rfl⟩
      · exact hbefore.recordCreation
      · show Books {} p.meter q.dropPending.releaseSlot.meter
        rw [meter_releaseSlot]
        exact hbefore

/-- A connection that is got was probed well or has just been opened.  Only the backend keeps a
checkout from getting one. -/
theorem cases_of_done {purpose : CheckoutPurpose} {k : Checkout} {r : Reply}
    {result : Except PoolError Lease} (h : (k.step purpose p now r).2 = .done result) :
    (exists l, result = .ok l ∧
      (k = .validating l ∧ r.arrivals = [] ∨ r.arrivals = [l.connection])) ∨
        exists name source, result = .error (.backend name source) := by
  have honward := onward purpose p now k r
  generalize k.step purpose p now r = after at honward h
  cases honward with
  | next | pursue | reject | search | again | still =>
      cases h
  | accept l =>
      cases h
      exact Or.inl ⟨_, rfl, Or.inl ⟨rfl, rfl⟩⟩
  | land hstep =>
      rcases Opening.cases_of_done (congrArg Prod.snd hstep) with
        ⟨c, rfl, rfl⟩ | ⟨name, source, rfl⟩
      · cases h
        exact Or.inl ⟨_, rfl, Or.inr rfl⟩
      · cases h
        exact Or.inr ⟨name, source, rfl⟩

end Checkout
end PoolHealth
