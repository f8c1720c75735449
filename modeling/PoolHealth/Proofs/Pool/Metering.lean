import PoolHealth.Proofs.Pool.Lifecycle
import PoolHealth.Proofs.Pool.Meters
import PoolHealth.Proofs.Pool.Places

/-!
# Counters and measurements tell the same

What a request for a connection does to the meter of a pool is determined by its answer.  It makes
no difference what else happens at the pool, how long it takes, or which calls are dropped.  So the
counters can be read off the answers that were given, and the measurements with them.
-/

namespace PoolHealth

open ConnectionPool

variable {p q : ConnectionPool} {now : Instant} {m m' : Meter} {b : Booking}

/-!
## Requests and their answers
-/

def PoolRequest.borrows : PoolRequest -> Bool
  | acquire | tryAcquire => true
  | checkup | warmUp | shutDown => false

/-- What an answer is to be booked as if these connections have arrived for it. -/
def PoolAnswer.booking (arrivals : List Connection) : PoolRequest -> PoolAnswer -> Booking
  | .acquire, .lent (.ok _) =>
      { waits := 1, hits := if arrivals = [] then 1 else 0, creations := arrivals.length }
  | .acquire, .lent (.error (.connectionTimeout _ _)) => { exhaustions := 1 }
  | .tryAcquire, .lent (.ok _) =>
      { hits := if arrivals = [] then 1 else 0, creations := arrivals.length }
  | _, _ => {}

def Progress.booking {σ α : Type} (answer : α -> PoolAnswer) (arrivals : List Connection)
    (request : PoolRequest) : Progress σ α -> Booking
  | .waiting _ => {}
  | .done a => (answer a).booking arrivals request

/-- A booking shows on the meter.  Other connections may have been opened besides, unless it is to
be exact. -/
def Booked (exact : Bool) (b : Booking) (m m' : Meter) : Prop :=
  exists n, Books { b with creations := n } m m' ∧ (exact = true -> n = b.creations)

theorem Booked.of_books {exact : Bool} (h : Books b m m') : Booked exact b m m' :=
  ⟨b.creations, h, fun _ => rfl⟩

theorem Booked.of_quiet (h : Quiet m m') : Booked false {} m m' := by
  rcases h with ⟨n, hbooks⟩
  refine ⟨n, hbooks, ?_⟩
  intro hexact
  cases hexact

theorem Booked.of_eq {exact : Bool} (h : m' = m) : Booked exact {} m m' := by
  rw [h]
  exact .of_books (.refl m)

namespace Acquire

theorem books_proceed (p : ConnectionPool) (started : Instant) :
    Books {} p.meter (proceed p now started).1.meter := Checkout.books_search p now

theorem books_start (p : ConnectionPool) :
    Books ((start p now).2.booking .lent [] .acquire) p.meter (start p now).1.meter := by
  unfold start
  split
  · exact .refl _
  · split
    · rename_i slots _
      exact books_proceed { p with slots := slots } now
    · exact .refl _
    · exact .refl _

theorem books_leave (p : ConnectionPool) (t : Ticket) :
    Books {} p.meter (p.leaveSlotQueue t).meter := by
  rw [meter_leaveSlotQueue]
  exact .refl _

theorem books_step (p : ConnectionPool) (k : Acquire) (r : Reply) :
    Books ((k.step p now r).2.booking .lent r.arrivals .acquire) p.meter
      (k.step p now r).1.meter := by
  have hcheckout : forall c q progress, Checkout.step .caller p now c r = (q, progress) ->
      Books (Checkout.booking .caller r.arrivals progress) p.meter q.meter := by
    intro c q progress hstep
    have hbooks := c.books_step .caller p now r
    rw [hstep] at hbooks
    exact hbooks
  have honward := onward p now k r
  generalize k.step p now r = after at honward ⊢
  cases honward with
  | @called t started hturn =>
      exact books_proceed (ConnectionPool.dropWaiter { p with slots := p.slots.collect t }) started
  | turnedAway hclosed =>
      exact books_leave p _
  | gaveUp t started =>
      exact (books_leave p t).recordExhaustion
  | patient | still =>
      exact .refl _
  | again hstep =>
      exact hcheckout _ _ _ hstep
  | served hstep =>
      have hbooks := hcheckout _ _ _ hstep
      simp only [Checkout.booking, and_true] at hbooks
      exact hbooks.recordWait _
  | failed hstep =>
      rcases Checkout.cases_of_done (congrArg Prod.snd hstep) with
        ⟨l, hl, _⟩ | ⟨name, source, herror⟩
      · cases hl
      · cases herror
        exact hcheckout _ _ _ hstep

theorem exists_checkout_of_done {k : Acquire} {r : Reply} {l : Lease}
    (h : (k.step p now r).2 = .done (.ok l)) :
    exists k', k.checkout? = some k' ∧ (k'.step .caller p now r).2 = .done (.ok l) := by
  have honward := onward p now k r
  generalize k.step p now r = after at honward h
  cases honward with
  | called | turnedAway | patient | gaveUp | again | failed | still =>
      cases h
  | served hstep =>
      cases h
      exact ⟨_, rfl, congrArg Prod.snd hstep⟩

end Acquire

namespace Checkout

theorem books_start (p : ConnectionPool) :
    Books ((start p now).2.booking .lent [] .tryAcquire) p.meter (start p now).1.meter := by
  unfold start
  split
  · exact .refl _
  · split
    · rename_i slots _
      exact books_search { p with slots := slots } now
    · exact .refl _
    · exact .refl _

theorem books_step_caller (p : ConnectionPool) (k : Checkout) (r : Reply) :
    Books ((k.step .caller p now r).2.booking .lent r.arrivals .tryAcquire) p.meter
      (k.step .caller p now r).1.meter := by
  have hbooks := k.books_step .caller p now r
  cases hprogress : (k.step .caller p now r).2 with
  | waiting k' =>
      rw [hprogress] at hbooks
      exact hbooks
  | done result =>
      rw [hprogress] at hbooks
      cases result with
      | ok l =>
          simp only [booking, and_true] at hbooks
          exact hbooks
      | error e =>
          exact hbooks

end Checkout

namespace PoolCall

theorem booking_wrap {σ α : Type} (call : σ -> PoolCall) (answer : α -> PoolAnswer)
    (arrivals : List Connection) (request : PoolRequest)
    (result : ConnectionPool × Progress σ α) :
    (wrap call answer result).2.booking id arrivals request
      = result.2.booking answer arrivals request := by
  cases result with
  | mk q progress =>
      cases progress with
      | waiting k | done a =>
          rfl

theorem booking_of_not_borrows {σ α : Type} {answer : α -> PoolAnswer}
    {arrivals : List Connection} {request : PoolRequest} (hother : request.borrows = false)
    (progress : Progress σ α) : progress.booking answer arrivals request = {} := by
  cases progress with
  | waiting k =>
      rfl
  | done a =>
      cases request with
      | acquire | tryAcquire =>
          cases hother
      | checkup | warmUp | shutDown =>
          rfl

theorem booked_of_quiet {arrivals : List Connection} {request : PoolRequest}
    {after : ConnectionPool × Progress PoolCall PoolAnswer} (hother : request.borrows = false)
    (h : Quiet m after.1.meter) :
    Booked request.borrows (after.2.booking id arrivals request) m after.1.meter := by
  rw [booking_of_not_borrows hother, hother]
  exact .of_quiet h

theorem account_notMem_of {request : PoolRequest} (hother : request.borrows = false) :
    .account ∉ Matter.of request := by
  cases request with
  | acquire | tryAcquire =>
      cases hother
  | checkup | warmUp | shutDown =>
      decide

theorem account_notMem_ofCancel (request : PoolRequest) : .account ∉ Matter.ofCancel request := by
  cases request with
  | acquire | tryAcquire | checkup | warmUp | shutDown =>
      decide

theorem booked_start (p : ConnectionPool) (request : PoolRequest) :
    Booked request.borrows ((start p now request).2.booking id [] request) p.meter
      (start p now request).1.meter := by
  have hquiet : request.borrows = false -> Quiet p.meter (start p now request).1.meter := by
    intro hother
    exact (does_start p.dated_any trivial request).deeds.quiet (account_notMem_of hother)
  cases request with
  | acquire =>
      rw [start, booking_wrap, pool_wrap]
      exact .of_books (Acquire.books_start p)
  | tryAcquire =>
      rw [start, booking_wrap, pool_wrap]
      exact .of_books (Checkout.books_start p)
  | checkup | warmUp | shutDown =>
      exact booked_of_quiet rfl (hquiet rfl)

theorem booked_step (p : ConnectionPool) (k : PoolCall) (r : Reply) :
    Booked k.request.borrows ((k.step p now r).2.booking id r.arrivals k.request) p.meter
      (k.step p now r).1.meter := by
  have hquiet : k.request.borrows = false -> Quiet p.meter (k.step p now r).1.meter := by
    intro hother
    exact (does_step p.dated_any trivial k.dated_any r).deeds.quiet
      (account_notMem_of hother)
  cases k with
  | acquire k =>
      rw [step, booking_wrap, pool_wrap]
      exact .of_books (k.books_step p r)
  | tryAcquire k =>
      rw [step, booking_wrap, pool_wrap]
      exact .of_books (k.books_step_caller p r)
  | checkup k | warmUp k | shutDown k =>
      exact booked_of_quiet rfl (hquiet rfl)

theorem quiet_cancel (p : ConnectionPool) (k : PoolCall) :
    Quiet p.meter (k.cancel p now).meter :=
  (k.deeds_cancel p k.dated_any).quiet (account_notMem_ofCancel k.request)

theorem exists_of_wrap_eq_done {σ α : Type} {call : σ -> PoolCall} {answer : α -> PoolAnswer}
    {result : ConnectionPool × Progress σ α} {a : PoolAnswer}
    (h : (wrap call answer result).2 = .done a) : exists x, result.2 = .done x ∧ a = answer x := by
  cases result with
  | mk q progress =>
      cases progress with
      | waiting k =>
          cases h
      | done x =>
          cases h
          exact ⟨x, rfl, rfl⟩

/-- A connection that somebody gets was probed well or has just been opened. -/
theorem lease_step {k : PoolCall} {r : Reply} {l : Lease}
    (h : (k.step p now r).2 = .done (.lent (.ok l))) :
    k.checkout? = some (.validating l) ∧ r.arrivals = [] ∨ r.arrivals = [l.connection] := by
  have hcheckout : forall {k : Checkout}, (k.step .caller p now r).2 = .done (.ok l) ->
      k = .validating l ∧ r.arrivals = [] ∨ r.arrivals = [l.connection] := by
    intro k hdone
    rcases Checkout.cases_of_done hdone with ⟨d, hd, hgot⟩ | ⟨name, source, herror⟩
    · cases hd
      exact hgot
    · cases herror
  cases k with
  | acquire k =>
      rcases exists_of_wrap_eq_done h with ⟨result, hdone, hresult⟩
      cases hresult
      rcases Acquire.exists_checkout_of_done hdone with ⟨k', hk, hdone⟩
      rcases hcheckout hdone with ⟨rfl, hnone⟩ | hopened
      · exact Or.inl ⟨hk, hnone⟩
      · exact Or.inr hopened
  | tryAcquire k =>
      rcases exists_of_wrap_eq_done h with ⟨result, hdone, hresult⟩
      cases hresult
      rcases hcheckout hdone with ⟨rfl, hnone⟩ | hopened
      · exact Or.inl ⟨rfl, hnone⟩
      · exact Or.inr hopened
  | checkup k | warmUp k | shutDown k =>
      rcases exists_of_wrap_eq_done h with ⟨result, _, hresult⟩
      cases hresult

theorem not_lent_at_once (p : ConnectionPool) (now : Instant) (request : PoolRequest) (l : Lease) :
    (start p now request).2 ≠ .done (.lent (.ok l)) := by
  intro h
  cases request with
  | acquire =>
      rcases exists_of_wrap_eq_done h with ⟨result, hdone, hresult⟩
      cases hresult
      unfold Acquire.start at hdone
      split at hdone
      · cases hdone
      · split at hdone
        · cases hdone
        · cases hdone
        · cases hdone
  | tryAcquire =>
      rcases exists_of_wrap_eq_done h with ⟨result, hdone, hresult⟩
      cases hresult
      unfold Checkout.start at hdone
      split at hdone
      · cases hdone
      · split at hdone
        · cases hdone
        · cases hdone
        · cases hdone
  | checkup | warmUp | shutDown =>
      rcases exists_of_wrap_eq_done h with ⟨result, _, hresult⟩
      cases hresult

end PoolCall

/-!
## Actions
-/

theorem Maintenance.quiet_step (p : ConnectionPool) (m : Maintenance) (r : Reply) :
    Quiet p.meter (m.step p now r).1.meter :=
  (does_step p.dated_any trivial m.dated_any r).deeds.quiet (by decide)

theorem Maintenance.quiet_cancel (p : ConnectionPool) (m : Maintenance) :
    Quiet p.meter (m.cancel p now).meter :=
  (m.deeds_cancel p m.dated_any).quiet (by decide)

namespace Traffic

variable {c : PoolConfig} {s t u : Traffic} {a : Action} {l : Lease} {log : Log}

def meter (s : Traffic) : Meter := .read s.pool.stats s.records

theorem foldl_react_records (events : List PoolEvent) (s : Traffic) :
    (events.foldl react s).records = s.records ++ events.filterMap PoolEvent.measurement? := by
  induction events generalizing s with
  | nil =>
      exact (List.append_nil s.records).symm
  | cons e rest ih =>
      rw [List.foldl_cons, ih]
      cases e with
      | measured r =>
          exact List.append_assoc s.records [r] _
      | slotStirred t | lockPassed t | closeLater c | maintenanceStarted | maintenanceStopping =>
          rfl

theorem booked_adopt {exact : Bool} (hs : s.Settled) (hrecords : u.records = s.records)
    (h : Booked exact b s.pool.meter p.meter) : Booked exact b s.meter (u.adopt p).meter := by
  have hmeter : (u.adopt p).meter = .read p.stats (s.records ++ p.measurements) := by
    unfold meter
    rw [adopt_pool, ← hrecords]
    exact congrArg (Meter.read p.stats) (foldl_react_records p.outbox _)
  rcases h with ⟨n, hbooks, hexact⟩
  unfold ConnectionPool.meter at hbooks
  rw [measurements_of_outbox hs.outbox] at hbooks
  rw [hmeter]
  exact ⟨n, hbooks.collected s.records, hexact⟩

theorem quiet_abandon {x : Party} (h : s.abandon x = some p) : Quiet s.pool.meter p.meter := by
  cases x with
  | caller k =>
      cases h
      exact k.quiet_cancel s.pool
  | maintainer n m =>
      cases h
      exact m.quiet_cancel s.pool
  | closer c | finisher c =>
      cases h
      exact .of_eq rfl
  | borrower l =>
      cases h

def progress? (s : Traffic) : Action -> Option (PoolRequest × Progress PoolCall PoolAnswer)
  | .call request => some (request, (PoolCall.start s.pool s.now request).2)
  | .reply i r =>
      match s.parties[i]? with
      | some (.caller k) => some (k.request, (k.step s.pool s.now r).2)
      | _ => none
  | .elapse _ | .drop _ | .giveBack _ _ | .markBroken _ | .retire _ => none

def borrows (e : Traffic × Action) : Bool :=
  (e.1.progress? e.2).any fun progress => progress.1.borrows

def booking (e : Traffic × Action) : Booking :=
  match e.1.progress? e.2 with
  | some (request, progress) => progress.booking id e.2.arrivals request
  | none => {}

theorem booked_of_progress {request : PoolRequest}
    {progress : Progress PoolCall PoolAnswer} (hprogress : s.progress? a = some (request, progress))
    (h : Booked request.borrows (progress.booking id a.arrivals request) m m') :
    Booked (borrows (s, a)) (booking (s, a)) m m' := by
  unfold borrows booking
  simp only [hprogress]
  exact h

theorem booked_of_no_progress (hnone : s.progress? a = none) (h : Quiet m m') :
    Booked (borrows (s, a)) (booking (s, a)) m m' := by
  unfold borrows booking
  simp only [hnone]
  exact .of_quiet h

theorem booked_step (hs : s.Settled) (hstep : s.step a = some t) :
    Booked (borrows (s, a)) (booking (s, a)) s.meter t.meter := by
  rcases step_cases hstep with
    ⟨d, rfl, rfl⟩ | ⟨request, rfl, rfl⟩ | ⟨i, r, x, p, xs, rfl, hx, hproceed, rfl⟩ |
    ⟨i, x, p, rfl, hx, habandon, rfl⟩ | ⟨i, background, l, rfl, hx, rfl⟩ | ⟨i, l, rfl, hx, rfl⟩ |
    ⟨i, n, due, rfl, hx, htold, rfl⟩
  · exact .of_eq rfl
  · exact booked_adopt hs rfl (PoolCall.booked_start s.pool request)
  · refine booked_adopt hs rfl ?_
    rcases proceed_cases hproceed with
      ⟨k, rfl, _, rfl, _⟩ | ⟨n, k, rfl, _, _, rfl, _⟩ | ⟨d, rfl, _, rfl, _⟩ | ⟨d, rfl, _, rfl, _⟩
    · have hprogress : s.progress? (.reply i r) = some (k.request, (k.step s.pool s.now r).2) := by
        simp only [progress?, hx]
      exact booked_of_progress hprogress (k.booked_step s.pool r)
    · exact booked_of_no_progress (by simp only [progress?, hx]) (k.quiet_step s.pool r)
    · exact booked_of_no_progress (by simp only [progress?, hx]) (.of_eq rfl)
    · exact booked_of_no_progress (by simp only [progress?, hx]) (.of_eq rfl)
  · exact booked_adopt hs rfl (.of_quiet (quiet_abandon habandon))
  · exact booked_adopt hs rfl (.of_eq (meter_giveBack s.pool l background))
  · exact .of_eq rfl
  · exact .of_eq rfl

/-!
## Answers
-/

def answer? (e : Traffic × Action) : Option (PoolRequest × PoolAnswer) :=
  (e.1.progress? e.2).bind fun progress => progress.2.answer?.map fun a => (progress.1, a)

def timesOut (e : Traffic × Action) : Bool :=
  match answer? e with
  | some (.acquire, .lent (.error (.connectionTimeout _ _))) => true
  | _ => false

def serves (e : Traffic × Action) : Bool :=
  match answer? e with
  | some (.acquire, .lent (.ok _)) => true
  | _ => false

def lease? (e : Traffic × Action) : Option Lease :=
  match answer? e with
  | some (.acquire, .lent (.ok l)) | some (.tryAcquire, .lent (.ok l)) => some l
  | _ => none

/-- Whether somebody gets a connection that the pool had already. -/
def reuses (e : Traffic × Action) : Bool :=
  (lease? e).any fun l => e.1.opened.contains l.connection

theorem booking_eq (e : Traffic × Action) :
    booking e =
      { exhaustions := if timesOut e then 1 else 0
        waits := if serves e then 1 else 0
        hits := if (lease? e).isSome ∧ e.2.arrivals = [] then 1 else 0
        creations := if (lease? e).isSome then e.2.arrivals.length else 0 } := by
  unfold booking timesOut serves lease? answer?
  cases e.1.progress? e.2 with
  | none =>
      rfl
  | some progress =>
      rcases progress with ⟨request, k⟩
      cases k with
      | waiting k =>
          rfl
      | done answer =>
          cases answer with
          | lent result =>
              cases result with
              | ok l =>
                  cases request with
                  | acquire | tryAcquire =>
                      simp [Progress.booking, PoolAnswer.booking, Progress.answer?]
                  | checkup | warmUp | shutDown =>
                      rfl
              | error error =>
                  cases request with
                  | acquire =>
                      cases error with
                      | connectionTimeout name limit | notInitialized name | exhausted name
                      | connectionValidation name message | backend name source
                      | invalidConfig source =>
                          rfl
                  | tryAcquire | checkup | warmUp | shutDown =>
                      rfl
          | checked healthy | switched result =>
              cases request with
              | acquire | tryAcquire | checkup | warmUp | shutDown =>
                  rfl

theorem exists_progress_of_lease {e : Traffic × Action} (hlease : lease? e = some l) :
    exists request : PoolRequest, request.borrows = true ∧
      e.1.progress? e.2 = some (request, .done (.lent (.ok l))) := by
  have hanswer : exists request : PoolRequest, request.borrows = true ∧
      answer? e = some (request, .lent (.ok l)) := by
    unfold lease? at hlease
    split at hlease
    · rename_i hgot
      cases hlease
      exact ⟨.acquire, rfl, hgot⟩
    · rename_i hgot
      cases hlease
      exact ⟨.tryAcquire, rfl, hgot⟩
    · cases hlease
  rcases hanswer with ⟨request, hborrows, hanswer⟩
  rcases Option.bind_eq_some_iff.mp hanswer with ⟨⟨other, progress⟩, hprogress, hrest⟩
  rcases Option.map_eq_some_iff.mp hrest with ⟨answer, hdone, heq⟩
  cases heq
  have hdone : progress = .done (.lent (.ok l)) := Progress.eq_done_of_answer hdone
  refine ⟨other, hborrows, ?_⟩
  rw [hprogress, hdone]

theorem exists_call_of_lease (hlease : lease? (s, a) = some l) :
    exists i r k, a = .reply i r ∧ s.parties[i]? = some (.caller k) ∧
      (k.step s.pool s.now r).2 = .done (.lent (.ok l)) := by
  rcases exists_progress_of_lease hlease with ⟨request, _, hprogress⟩
  cases a with
  | call started =>
      simp only [progress?, Option.some.injEq, Prod.mk.injEq] at hprogress
      exact absurd hprogress.2 (PoolCall.not_lent_at_once s.pool s.now started l)
  | reply i r =>
      simp only [progress?] at hprogress
      split at hprogress
      · rename_i k hk
        simp only [Option.some.injEq, Prod.mk.injEq] at hprogress
        exact ⟨i, r, k, rfl, hk, hprogress.2⟩
      · cases hprogress
  | elapse d | drop i | giveBack i background | markBroken i | retire i =>
      cases hprogress

theorem Run.lease_cases (h : Run (ofConfig c) log s) (hstep : s.step a = some t)
    (hlease : lease? (s, a) = some l) :
    l.connection ∈ s.opened ∧ a.arrivals = [] ∨
      l.connection ∉ s.opened ∧ a.arrivals = [l.connection] := by
  rcases exists_call_of_lease hlease with ⟨i, r, k, rfl, hk, hdone⟩
  rcases PoolCall.lease_step hdone with ⟨hprobed, hnone⟩ | hopened
  · left
    refine ⟨h.mem_opened_of_mem_connections ?_, hnone⟩
    have hmine : l.connection ∈ (Party.caller k).checkedOut := by
      have hchecked : (Party.caller k).checkout? = some (.validating l) := hprobed
      unfold Party.checkedOut
      rw [hchecked]
      exact List.mem_singleton_self _
    have hparty : l.connection ∈ s.checkedOut :=
      List.mem_flatMap.mpr ⟨_, List.mem_of_getElem? hk, hmine⟩
    unfold connections
    simp only [List.mem_append]
    exact Or.inl (Or.inl (Or.inr hparty))
  · right
    refine ⟨?_, hopened⟩
    rcases Option.bind_eq_some_iff.mp hstep with ⟨x, _, hrest⟩
    rcases Option.bind_eq_some_iff.mp hrest with ⟨⟨p, xs⟩, hproceed, _⟩
    apply notMem_opened_of_proceed hproceed
    rw [hopened]
    exact List.mem_singleton_self _

/-!
## Runs
-/

/-- Whether somebody gets a connection for which none has arrived. -/
def findsOne (e : Traffic × Action) : Bool := (lease? e).isSome && e.2.arrivals.isEmpty

theorem Run.books (h : Run s log t) (hs : s.Settled) :
    exists n, Books
      { exhaustions := log.countP timesOut
        waits := log.countP serves
        hits := log.countP findsOne
        creations := n } s.meter t.meter := by
  induction h with
  | done s =>
      exact ⟨0, .refl s.meter⟩
  | @act s t u a log hstep _ ih =>
      rcases booked_step hs hstep with ⟨first, hfirst, _⟩
      rcases ih (settled_step hs hstep) with ⟨later, hlater⟩
      refine ⟨first + later, ?_⟩
      have hboth := hfirst.trans hlater
      rw [booking_eq] at hboth
      simp only [List.countP_cons, Nat.add_comm (log.countP _)]
      have hfinds : (if findsOne (s, a) = true then 1 else 0)
          = if (lease? (s, a)).isSome ∧ a.arrivals = [] then 1 else 0 := by
        unfold findsOne
        simp only [Bool.and_eq_true, List.isEmpty_iff]
      rw [hfinds]
      exact hboth

def reported (s : Traffic) (kind : MetricKind) (name : String) : Nat :=
  s.records.countP (MetricRecord.isOf kind name)

structure Metered (log : Log) (t : Traffic) : Prop where
  errors : t.reported .counter Metrics.connectionErrorsTotal = t.pool.stats.errors
  exhaustions : t.reported .counter Metrics.exhaustionsTotal = t.pool.stats.exhaustions
  misses : t.pool.stats.misses = t.pool.stats.exhaustions
  timeouts : t.pool.stats.exhaustions = log.countP timesOut
  waits : t.reported .observation Metrics.acquireSeconds = log.countP serves
  hits : t.pool.stats.hits = log.countP reuses
  /-- A connection that the pool had already raises the hits. -/
  reused : forall e u l, e ∈ log -> e.1.step e.2 = some u -> lease? e = some l ->
    l.connection ∈ e.1.opened ->
      u.pool.stats.hits = e.1.pool.stats.hits + 1 ∧
        u.pool.stats.creations = e.1.pool.stats.creations
  /-- Otherwise it is the one that the backend has just opened for the call, and raises the
  creations. -/
  fresh : forall e u l, e ∈ log -> e.1.step e.2 = some u -> lease? e = some l ->
    l.connection ∉ e.1.opened ->
      e.2.arrivals = [l.connection] ∧ u.pool.stats.hits = e.1.pool.stats.hits ∧
        u.pool.stats.creations = e.1.pool.stats.creations + 1
  /-- Nothing else raises the hits, and requests that get no connection raise no creations. -/
  others : forall e u, e ∈ log -> e.1.step e.2 = some u -> lease? e = none ->
    u.pool.stats.hits = e.1.pool.stats.hits ∧
      (borrows e = true -> u.pool.stats.creations = e.1.pool.stats.creations)

theorem stats_step (hs : s.Settled) (hstep : s.step a = some t) :
    t.pool.stats.hits = s.pool.stats.hits + (booking (s, a)).hits ∧
      (borrows (s, a) = true ->
        t.pool.stats.creations = s.pool.stats.creations + (booking (s, a)).creations) := by
  rcases booked_step hs hstep with ⟨n, hbooks, hexact⟩
  refine ⟨hbooks.hits, ?_⟩
  intro hborrows
  rw [← hexact hborrows]
  exact hbooks.creations

theorem borrows_of_lease {e : Traffic × Action} (hlease : lease? e = some l) :
    borrows e = true := by
  rcases exists_progress_of_lease hlease with ⟨request, hborrows, hprogress⟩
  unfold borrows
  rw [hprogress]
  exact hborrows

/-- For those who get a connection, the pool had it already if and only if none has arrived. -/
theorem Run.findsOne_iff_reuses (h : Run (ofConfig c) log s) (hstep : s.step a = some t) :
    findsOne (s, a) = true <-> reuses (s, a) = true := by
  unfold findsOne reuses
  cases hlease : lease? (s, a) with
  | none =>
      exact Iff.rfl
  | some l =>
      simp only [Option.isSome_some, Bool.true_and, List.isEmpty_iff, Option.any_some,
        List.contains_iff_mem]
      rcases h.lease_cases hstep hlease with ⟨hhad, hnone⟩ | ⟨hnew, harrived⟩
      · exact iff_of_true hnone hhad
      · refine iff_of_false ?_ hnew
        rw [harrived]
        exact List.cons_ne_nil _ _

theorem Run.stats_of_reused (h : Run (ofConfig c) log s) (hstep : s.step a = some t)
    (hlease : lease? (s, a) = some l) (hhad : l.connection ∈ s.opened) :
    t.pool.stats.hits = s.pool.stats.hits + 1 ∧
      t.pool.stats.creations = s.pool.stats.creations := by
  rcases stats_step (h.settled (settled_ofConfig c)) hstep with ⟨hhits, hcreations⟩
  have hnew := hcreations (borrows_of_lease hlease)
  rcases h.lease_cases hstep hlease with ⟨_, hnone⟩ | ⟨hnot, _⟩
  · simp only [booking_eq, hlease, hnone] at hhits hnew
    exact ⟨hhits, hnew⟩
  · exact absurd hhad hnot

theorem Run.stats_of_fresh (h : Run (ofConfig c) log s) (hstep : s.step a = some t)
    (hlease : lease? (s, a) = some l) (hnot : l.connection ∉ s.opened) :
    a.arrivals = [l.connection] ∧ t.pool.stats.hits = s.pool.stats.hits ∧
      t.pool.stats.creations = s.pool.stats.creations + 1 := by
  rcases stats_step (h.settled (settled_ofConfig c)) hstep with ⟨hhits, hcreations⟩
  have hnew := hcreations (borrows_of_lease hlease)
  rcases h.lease_cases hstep hlease with ⟨hhad, _⟩ | ⟨_, harrived⟩
  · exact absurd hhad hnot
  · simp only [booking_eq, hlease, harrived] at hhits hnew
    exact ⟨harrived, hhits, hnew⟩

theorem Run.stats_of_no_lease (h : Run (ofConfig c) log s) (hstep : s.step a = some t)
    (hnone : lease? (s, a) = none) :
    t.pool.stats.hits = s.pool.stats.hits ∧
      (borrows (s, a) = true -> t.pool.stats.creations = s.pool.stats.creations) := by
  rcases stats_step (h.settled (settled_ofConfig c)) hstep with ⟨hhits, hcreations⟩
  simp only [booking_eq, hnone] at hhits hcreations
  exact ⟨hhits, hcreations⟩

theorem Run.metered (h : Run (ofConfig c) log t) : Metered log t := by
  rcases h.books (settled_ofConfig c) with ⟨n, hbooks⟩
  constructor
  · exact (hbooks.errors.trans (Nat.zero_add _)).symm
  · exact hbooks.exhaustionsTold.trans hbooks.exhaustions.symm
  · exact hbooks.misses.trans hbooks.exhaustions.symm
  · exact hbooks.exhaustions.trans (Nat.zero_add _)
  · exact hbooks.waitsTold.trans (Nat.zero_add _)
  · have hfound : t.pool.stats.hits = log.countP findsOne := hbooks.hits.trans (Nat.zero_add _)
    rw [hfound]
    apply List.countP_congr
    intro e he
    rcases h.split he with ⟨before, later, u, _, hbefore, hstep, _⟩
    exact hbefore.findsOne_iff_reuses hstep
  · intro e u l he hstep hlease hhad
    rcases h.split he with ⟨before, later, v, _, hbefore, _, _⟩
    exact hbefore.stats_of_reused hstep hlease hhad
  · intro e u l he hstep hlease hnot
    rcases h.split he with ⟨before, later, v, _, hbefore, _, _⟩
    exact hbefore.stats_of_fresh hstep hlease hnot
  · intro e u he hstep hnone
    rcases h.split he with ⟨before, later, v, _, hbefore, _, _⟩
    exact hbefore.stats_of_no_lease hstep hnone

def singleConfig : PoolConfig := { PoolConfig.named "p" with minSize := 0, maxSize := 1 }

/-- Somebody gets a new connection, and somebody else waits for it in vain.  After that it fails its
probe and is replaced by another one, which is lent twice. -/
def servedAndTurnedAway : List Action :=
  [.call .warmUp, .call .acquire, .reply 1 (.created (.ok ⟨0⟩)), .call .acquire,
    .reply 2 .timedOut, .giveBack 1 true, .call .acquire, .reply 1 (.validated false),
    .reply 1 (.closed (.ok ())), .reply 1 (.created (.ok ⟨1⟩)), .giveBack 1 true,
    .call .tryAcquire, .reply 1 (.validated true)]

theorem metered_when_served_and_turned_away :
    exists log t, Run (ofConfig singleConfig) log t ∧
      log.map (fun e => e.2) = servedAndTurnedAway ∧ t.pool.stats.errors = 1 ∧
        t.pool.stats.exhaustions = 1 ∧ t.pool.stats.hits = 1 ∧ t.pool.stats.creations = 2 ∧
          t.reported .observation Metrics.acquireSeconds = 2 ∧ Metered log t := by
  have hrun : ((ofConfig singleConfig).run servedAndTurnedAway).any
      (fun t => t.pool.stats.errors = 1 ∧ t.pool.stats.exhaustions = 1 ∧ t.pool.stats.hits = 1 ∧
        t.pool.stats.creations = 2 ∧
          t.reported .observation Metrics.acquireSeconds = 2) = true := by
    decide +kernel
  rcases exists_run_of_any hrun with ⟨log, t, h, hactions, hend⟩
  rcases of_decide_eq_true hend with ⟨herrors, hexhaustions, hhits, hcreations, hwaits⟩
  exact ⟨log, t, h, hactions, herrors, hexhaustions, hhits, hcreations, hwaits, Run.metered h⟩

end Traffic
end PoolHealth
