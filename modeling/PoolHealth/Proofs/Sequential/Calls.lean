import PoolHealth.Proofs.Sequential.Checkouts

/-!
# Borrowing and checking alone

A pool shows a queue and what was borrowed if it has just that idle and on loan, and nobody
waits for a slot.  Whoever borrows from such a pool, or checks it, leaves a pool that shows
what the queue is to become.
-/

namespace PoolHealth

open ConnectionPool Token

variable {now : Instant} {p q : ConnectionPool} {A B : Multiset Token} {c : PoolConfig}
variable {env : Surroundings} {s : Reference} {j k l : Journal}

def loans (held : List Lease) : Multiset Token := each .lent (held.map (·.connection))

theorem loans_append (held others : List Lease) :
    loans (held ++ others) = loans held + loans others := by
  unfold loans
  rw [List.map_append, each_append]

theorem loans_eraseIdx {held : List Lease} {i : Nat} {l : Lease} (h : held[i]? = some l) :
    loans held = {.lent l.connection} + loans (held.eraseIdx i) := by
  rcases List.getElem?_eq_some_iff.mp h with ⟨hlt, hl⟩
  have hperm := (List.getElem_cons_eraseIdx_perm hlt).map fun l : Lease => Token.lent l.connection
  rw [hl] at hperm
  unfold loans each
  rw [List.map_map, List.map_map]
  exact (Multiset.coe_eq_coe.mpr hperm).symm

theorem leased_eq (r : Except PoolError Lease) : leased r = loans r.toOption.toList := by
  cases r with
  | error e =>
      rfl
  | ok d =>
      rfl

theorem tally_loans (w : Token -> Nat) (n : Nat) (hw : forall d, w (.lent d) = n)
    (held : List Lease) : tally w (loans held) = n * held.length := by
  simp [loans, tally_each, hw, Function.comp_def, Nat.mul_comm]

/-- The pool shows that queue and those loans.  Somebody may hold more of it for now. -/
structure Shows (c : PoolConfig) (p : ConnectionPool) (extra : Multiset Token) (s : Reference) :
    Prop where
  config : p.config = c
  ready : p.isReady = s.ready
  queue : p.idle = s.queue
  fit : Fit p (extra + loans s.held)
  opened : p.slots.closed = false
  nobody : p.slots.tickets = []

namespace Shows

theorem serves {t : Reference} (h : Shows c p A s) (hserves : Serves p q)
    (hready : t.ready = s.ready) (hqueue : q.idle = t.queue)
    (hfit : Fit q (B + loans t.held)) : Shows c q B t where
  config := hserves.config.trans h.config
  ready := by rw [hserves.isReady_eq, h.ready, hready]
  queue := hqueue
  fit := hfit
  opened := hserves.slots.closed.trans h.opened
  nobody := by
    have hsame := hserves.slots.tickets
    rw [h.nobody] at hsame
    exact hsame.eq_nil

theorem free_add_held (h : Shows c p A s) (hnone : tally slots A = 0) :
    p.slots.free + s.held.length = c.maxSize.toNat := by
  have hslots := h.fit.sound.balanced.slots
  have hnobody := List.append_eq_nil_iff.mp h.nobody
  rw [tally_add, hnone, tally_loans slots 1 (fun _ => rfl), h.config] at hslots
  unfold Semaphore.available at hslots
  rw [hnobody.2] at hslots
  simp at hslots
  exact hslots

theorem tryTake_of_isFull (h : Shows c p A s) (hnone : tally slots A = 0)
    (hfull : s.isFull c = true) : p.slots.tryTake = .noneFree := by
  have hcount := h.free_add_held hnone
  have hheld : s.held.length = c.maxSize.toNat := eq_of_beq hfull
  have hfree : p.slots.free = 0 := by omega
  unfold Semaphore.tryTake
  rw [h.opened, hfree]
  rfl

theorem exists_taken (h : Shows c p A s) (hnone : tally slots A = 0)
    (hfull : s.isFull c = false) : exists slots, p.slots.tryTake = .taken slots := by
  have hcount := h.free_add_held hnone
  have hheld : s.held.length ≠ c.maxSize.toNat := by
    intro heq
    rw [Reference.isFull, heq, beq_self_eq_true] at hfull
    cases hfull
  have hfree : p.slots.free ≠ 0 := by omega
  refine ⟨{ p.slots with free := p.slots.free - 1 }, ?_⟩
  unfold Semaphore.tryTake
  rw [if_neg (by simp [h.opened]), if_neg hfree]

theorem total_add_pending (h : Shows c p A s) (hnopending : tally pending A = 0)
    (hnoactive : tally active A = 0) :
    p.stats.total + p.pending = s.held.length + s.queue.length := by
  have hpending := h.fit.sound.balanced.pending
  have hactive := h.fit.sound.balanced.active
  have htotal := h.fit.sound.balanced.total
  rw [tally_add, hnopending, tally_loans Token.pending 0 (fun _ => rfl)] at hpending
  rw [tally_add, hnoactive, tally_loans active 1 (fun _ => rfl)] at hactive
  rw [h.queue] at htotal
  omega

theorem giveBack {d : Lease} (h : Shows c p ({.lent d.connection} + A) s) (hdues : p.dues = []) :
    Shows c (p.giveBack s.journal.now d true) A (s.giveBack c d) ∧
      (s.giveBack c d).journal = s.journal.noteAll (p.giveBack s.journal.now d true).dues := by
  have hserves : Serves p (p.giveBack s.journal.now d true) := .giveBack p d true
  have hfit := h.fit
  rw [add_assoc] at hfit
  have hchange : Change .roomy s.journal.now p {.lent d.connection}
      (p.giveBack s.journal.now d true) 0 := Change.giveBack rfl
  have hback := hfit.lose s.journal.now hchange
  have hreusable : p.isReusable s.journal.now d =
      (s.ready && !d.broken
        && decide (s.journal.now.nanosSince d.createdAt < c.maxLifetime.nanos)) := by
    unfold isReusable
    rw [h.ready, h.config]
  unfold Reference.giveBack
  rw [← hreusable]
  cases hkept : p.isReusable s.journal.now d with
  | true =>
      rw [giveBack_of_isReusable hkept] at hserves hback ⊢
      constructor
      · refine h.serves hserves rfl ?_ hback
        rw [releaseSlot_eq]
        show p.idle ++ [_] = s.queue ++ [_]
        rw [h.queue]
      · rw [dues_releaseSlot]
        show s.journal = s.journal.noteAll p.dues
        rw [hdues]
        rfl
  | false =>
      rw [giveBack_background hkept] at hserves hback ⊢
      constructor
      · refine h.serves hserves rfl ?_ hback
        rw [releaseSlot_eq]
        exact h.queue
      · rw [dues_releaseSlot, dues_emit]
        show _ = s.journal.noteAll (p.dues ++ [d.connection])
        rw [hdues]
        rfl

end Shows

/-!
## Borrowing
-/

namespace Checkout

theorem start_of_not_ready (h : Shows c p A s) (hready : s.ready = false) (now : Instant) :
    start p now = (p, .done (.error (.notInitialized c.name))) := by
  unfold start
  rw [h.ready, hready, ← h.config]
  rfl

theorem start_of_full (h : Shows c p A s) (hnone : tally slots A = 0) (hready : s.ready = true)
    (hfull : s.isFull c = true) (now : Instant) :
    start p now = (p, .done (.error (.exhausted c.name))) := by
  unfold start
  rw [h.ready, hready, h.tryTake_of_isFull hnone hfull, ← h.config]
  rfl

theorem drives_start (env : Surroundings) (purpose : CheckoutPurpose) (h : Shows c p A s)
    (hnone : tally slots A = 0) (hready : s.ready = true) (hfull : s.isFull c = false) :
    exists q,
      (machine purpose).Drives env s.journal (start p s.journal.now)
        (env.serve c [] s.queue s.journal).journal
        (q, (env.serve c [] s.queue s.journal).result) ∧
      Ends p q (env.serve c [] s.queue s.journal) (A + loans s.held) := by
  rcases h.exists_taken hnone hfull with ⟨slots, htaken⟩
  have hpool : p.isReady = true := h.ready.trans hready
  have hstart : start p s.journal.now = begun { p with slots := slots } s.journal.now := by
    unfold start
    rw [hpool, htaken]
    rfl
  have hfit : Fit { p with slots := slots } ({.slot .bare} + (A + loans s.held)) :=
    h.fit.gain s.journal.now (Change.take hpool htaken)
  rcases serving env purpose hfit s.journal with ⟨q, hdrives, hends⟩
  rw [hstart, ← h.config, ← h.queue]
  exact ⟨q, hdrives, hends.after rfl (.take htaken)⟩

theorem Ends.shows_lend (hends : Ends p q (env.serve c [] s.queue s.journal) (A + loans s.held))
    (h : Shows c p A s) : Shows c q A (s.lend env c).1 := by
  refine h.serves hends.serves rfl hends.idle ?_
  have hfit := hends.fit
  rw [leased_eq, add_left_comm, add_comm (loans _), ← loans_append] at hfit
  exact hfit

end Checkout

namespace Acquire

def machine : Machine Acquire (Except PoolError Lease) where
  await := fun c k => k.await c
  step := step

def deliver (started : Instant) (p : ConnectionPool) (now : Instant) :
    Except PoolError Lease -> ConnectionPool × Progress Acquire (Except PoolError Lease)
  | .ok l => (p.recordWait (now.since started), .done (.ok l))
  | .error e => (p, .done (.error e))

theorem checkout_within (started : Instant) :
    (Checkout.machine .caller).Within machine (checkingOut started) (deliver started) where
  await := fun _ _ => rfl
  step := by
    intro p now k r
    show step p now (checkingOut started k) r =
      Machine.resume (checkingOut started) (deliver started) now (k.step .caller p now r)
    cases hstep : k.step .caller p now r with
    | mk q progress =>
        cases progress with
        | waiting k' =>
            simp only [step, hstep, Machine.resume]
        | done result =>
            cases result with
            | ok d | error e =>
                simp only [step, hstep, Machine.resume, deliver]

theorem start_eq (hfree : p.slots.tryTake ≠ .noneFree) :
    start p now = Machine.resume (checkingOut now) (deliver now) now (Checkout.start p now) := by
  unfold start Checkout.start
  cases p.isReady with
  | false =>
      rfl
  | true =>
      cases htake : p.slots.tryTake with
      | taken slots | closed =>
          rfl
      | noneFree =>
          contradiction

theorem start_of_not_ready (h : Shows c p A s) (hready : s.ready = false) (now : Instant) :
    start p now = (p, .done (.error (.notInitialized c.name))) := by
  unfold start
  rw [h.ready, hready, ← h.config]
  rfl

theorem drives_start (env : Surroundings) (h : Shows c p A s) (hnone : tally slots A = 0)
    (hready : s.ready = true) (hfull : s.isFull c = false) :
    exists q,
      machine.Drives env s.journal (start p s.journal.now)
        (env.serve c [] s.queue s.journal).journal
        (q, (env.serve c [] s.queue s.journal).result) ∧
      Checkout.Ends p q (env.serve c [] s.queue s.journal) (A + loans s.held) := by
  rcases Checkout.drives_start env .caller h hnone hready hfull with ⟨q, hdrives, hends⟩
  rcases h.exists_taken hnone hfull with ⟨slots, htaken⟩
  have hfree : p.slots.tryTake ≠ .noneFree := by
    rw [htaken]
    intro heq
    cases heq
  rw [start_eq hfree]
  cases hserve : env.serve c [] s.queue s.journal with
  | mk k queue result =>
      rw [hserve] at hdrives hends
      cases result with
      | error e =>
          exact ⟨q, Machine.Drives.within (checkout_within _) hdrives (.done _ _ _), hends⟩
      | ok d =>
          let wait : Duration := k.now.since s.journal.now
          refine ⟨q.recordWait wait,
            Machine.Drives.within (checkout_within _) hdrives (.done _ _ _), hends.idle, ?_, ?_, ?_⟩
          · exact (dues_recordWait wait q).trans hends.dues
          · exact hends.fit.keep k.now (Change.wait q wait)
          · exact hends.serves.trans (.of_slots rfl rfl rfl rfl rfl)

/-- As long as all slots are taken a caller waits until it gives up. -/
theorem drives_full (env : Surroundings) (h : Shows c p 0 s) (hready : s.ready = true)
    (hfull : s.isFull c = true) :
    exists q,
      machine.Drives env s.journal (start p s.journal.now)
        (s.journal.pass (env.alarm c.connectionTimeout))
        (q, .error (.connectionTimeout c.name c.connectionTimeout)) ∧
      Shows c q 0 { s with journal := s.journal.pass (env.alarm c.connectionTimeout) } ∧
      q.dues = p.dues ∧ q.lifecycle = p.lifecycle := by
  have hpool : p.isReady = true := h.ready.trans hready
  have htake : p.slots.tryTake = .noneFree := h.tryTake_of_isFull rfl hfull
  let t : Ticket := p.slots.nextTicket
  let lined : ConnectionPool := { p.addWaiter with slots := p.slots.wait }
  have hstart : start p s.journal.now = (lined, .waiting (queued t s.journal.now)) := by
    unfold start
    rw [hpool, htake]
    rfl
  have hline := h.fit.gain s.journal.now (Change.line hpool htake)
  have hgive : Changes .roomy s.journal.now lined {.queued} (giveUp lined t).1 0 :=
    changes_giveUp lined t
  have hleft := Fit.changes hgive hline
  rw [zero_add] at hleft
  -- Nobody else was in line, so that nobody is when this caller has left.
  have hslots : (p.slots.wait.leave t).closed = false ∧ (p.slots.wait.leave t).tickets = [] := by
    rcases List.append_eq_nil_iff.mp h.nobody with ⟨hqueue, hpromised⟩
    simp [Semaphore.leave, Semaphore.wait, Semaphore.tickets, hqueue, hpromised, h.opened, t]
  have hgave : (giveUp lined t).1 = (lined.leaveSlotQueue t).recordExhaustion.dropWaiter := rfl
  rw [leaveSlotQueue_eq] at hgave
  refine ⟨(giveUp lined t).1, ?_, ?_, ?_, ?_⟩
  · rw [hstart, ← h.config]
    exact Machine.Drives.wait rfl (.done _ _ _)
  · constructor
    · rw [hgave]
      exact h.config
    · rw [hgave]
      exact h.ready
    · rw [hgave]
      exact h.queue
    · exact hleft
    · rw [hgave]
      exact hslots.1
    · rw [hgave]
      exact hslots.2
  · rw [hgave]
    simp [dues, recordExhaustion, dropWaiter, addWaiter, lined, PoolEvent.dues]
  · rw [hgave]
    rfl

end Acquire

/-!
## Checking the pool
-/

/-- The pool and the journal show what is to become of the queue, as soon as the connections
are noted that are closed in the background. -/
structure Reaches (c : PoolConfig) (p : ConnectionPool) (j : Journal) (s : Reference) : Prop where
  shows : Shows c p 0 s
  journal : s.journal = j.noteAll p.dues

theorem noteAll_of_no_dues (hdues : p.dues = []) (j : Journal) : j = j.noteAll p.dues := by
  rw [hdues]
  rfl

theorem Reaches.of_shows (h : Shows c p 0 s) (hdues : p.dues = []) : Reaches c p s.journal s where
  shows := h
  journal := noteAll_of_no_dues hdues s.journal

namespace Checkup

def machine : Machine Checkup Bool where
  await := fun c k => k.await c
  step := step

theorem closes :
    machine.Closes evicting refill where
  await := fun _ _ _ => rfl
  step := by
    intro p now d rest r hfits
    cases r with
    | timedOut | closed result =>
        cases rest with
        | nil =>
            rfl
        | cons e others =>
            rfl
    | stirred | created result | validated ok =>
        cases hfits

theorem opening_within : Opening.machine.Within machine refilling settleRefill where
  await := fun _ _ => rfl
  step := by
    intro p now o r
    show step p now (refilling o) r = Machine.resume refilling settleRefill now (o.step p now r)
    cases hstep : o.step p now r with
    | mk q progress =>
        cases progress with
        | waiting o' | done result =>
            simp only [step, hstep, Machine.resume]

theorem checkout_within :
    (Checkout.machine .healthCheck).Within machine probing settleProbe where
  await := fun _ _ => rfl
  step := by
    intro p now k r
    show step p now (probing k) r =
      Machine.resume probing settleProbe now (k.step .healthCheck p now r)
    cases hstep : k.step .healthCheck p now r with
    | mk q progress =>
        cases progress with
        | waiting k' | done result =>
            simp only [step, hstep, Machine.resume]

def reserved (p : ConnectionPool) (slots : Semaphore) : ConnectionPool :=
  { p.addPending with slots := slots }

theorem idle_replenished (p : ConnectionPool) (d : Connection) :
    (replenished p now d).idle = p.idle ++ [⟨d, now, now⟩] := by
  unfold replenished
  rw [releaseSlot_eq]
  rfl

theorem idle_unreplenished (p : ConnectionPool) : (unreplenished p).idle = p.idle := by
  unfold unreplenished
  rw [releaseSlot_eq]
  rfl

theorem drives_reserve (env : Surroundings) (h : Shows c p {.checking} s)
    (hmissing : s.held.length + s.queue.length < c.minSize.toNat) :
    exists q,
      Serves p q ∧ q.idle = p.idle ∧ q.dues = p.dues ∧
        Fit q ({.slot .refilling} + ({.checking} + loans s.held)) ∧
        forall l y,
          machine.Drives env (env.openNew c s.journal).1
            (settleRefill q (env.openNew c s.journal).1.now (env.openNew c s.journal).2) l y ->
          machine.Drives env s.journal (refill p s.journal.now) l y := by
  have htotal := h.total_add_pending rfl rfl
  have hsizes := h.fit.sound.sizes
  -- A pool below its least size is below its greatest one, and cannot be all on loan.
  have hfull : s.isFull c = false := by
    rw [h.config] at hsizes
    rw [Reference.isFull, beq_eq_false_iff_ne]
    omega
  rcases h.exists_taken rfl hfull with ⟨slots, htaken⟩
  rw [← h.config, ← htotal] at hmissing
  have hreserve : p.reserveRefill? = some p.addPending := by
    unfold reserveRefill?
    rw [if_neg (by omega)]
  have hrefill : refill p s.journal.now = (reserved p slots, .waiting (refilling .first)) := by
    have htaken' : p.addPending.slots.tryTake = .taken slots := htaken
    unfold refill
    rw [hreserve]
    simp only [htaken']
    rfl
  have hreserved := h.fit.change s.journal.now
    (Change.reserve hmissing (Nat.lt_of_lt_of_le hmissing hsizes) htaken)
  have hserves : Serves p (reserved p slots) := ⟨rfl, rfl, rfl, rfl, .of_taken htaken⟩
  rcases Opening.drives_first (p := reserved p slots) env h.config s.journal with
    ⟨q, hopening, herred⟩
  refine ⟨q, hserves.trans herred.serves, herred.idle_eq, herred.dues_eq, ?_, ?_⟩
  · have hsame : ({.slot .refilling} : Multiset Token) + ({.checking} + loans s.held) =
        {.checking} + {.slot .refilling} + loans s.held := by abel
    rw [hsame]
    exact herred.fit hreserved
  · intro l y hrest
    rw [hrefill]
    exact Machine.Drives.within opening_within hopening hrest

/-- The pool is brought up to its least size, and after that it is probed. -/
theorem drives_refill (env : Surroundings) (h : Shows c p {.checking} s)
    {n : Nat} (hmissing : c.minSize.toNat - (s.held.length + s.queue.length) = n) :
    exists q,
      Shows c q {.checking} (s.refill env c n) ∧ q.dues = p.dues ∧
        forall l y,
          machine.Drives env (s.refill env c n).journal (probe q (s.refill env c n).journal.now)
              l y ->
            machine.Drives env s.journal (refill p s.journal.now) l y := by
  -- By induction on how many connections are missing.
  induction n generalizing p s with
  | zero =>
      refine ⟨p, h, rfl, ?_⟩
      intro l y hprobe
      have htotal := h.total_add_pending rfl rfl
      have hnone : p.reserveRefill? = none := by
        unfold reserveRefill?
        rw [htotal, h.config, if_pos (by omega)]
      unfold refill
      rw [hnone]
      exact hprobe
  | succ n ih =>
      rcases drives_reserve env h (by omega) with ⟨q, hserves, hqueue, hdues, hfit, hdrives⟩
      unfold Reference.refill
      cases hnew : env.openNew c s.journal with
      | mk k result =>
          rw [hnew] at hdrives
          cases result with
          | error e =>
              have hserves' := serves_unreplenished hserves
              refine ⟨unreplenished q, ?_, (dues_releaseSlot q).trans hdues, hdrives⟩
              refine h.serves hserves' rfl ?_ (hfit.lose k.now (Change.refillFailed q))
              rw [idle_unreplenished, hqueue, h.queue]
          | ok d =>
              have hserves' := serves_replenished hserves k.now d
              have hshows : Shows c (replenished q k.now d) {.checking}
                  { s with journal := k, queue := s.queue ++ [⟨d, k.now, k.now⟩] } := by
                refine h.serves hserves' rfl ?_ ?_
                · rw [idle_replenished, hqueue, h.queue]
                · have hraw := hfit.add_raws [d]
                  rw [add_right_comm] at hraw
                  exact hraw.lose k.now (Change.landIdle q d)
              let e : IdleConnection := ⟨d, k.now, k.now⟩
              have hfewer : c.minSize.toNat - (s.held.length + (s.queue ++ [e]).length) = n := by
                rw [List.length_append, List.length_singleton]
                omega
              rcases ih hshows hfewer with ⟨r, hshows', hdues', hrest⟩
              refine ⟨r, hshows', ?_, ?_⟩
              · exact hdues'.trans ((dues_releaseSlot _).trans hdues)
              · intro l y hprobe
                exact hdrives l y (hrest l y hprobe)

theorem probe_eq (p : ConnectionPool) (now : Instant) :
    probe p now = Machine.resume probing settleProbe now (Checkout.start p now) := by
  unfold probe
  cases Checkout.start p now with
  | mk q progress =>
      cases progress with
      | waiting k | done r =>
          rfl

theorem drives_conclude (env : Surroundings) (h : Shows c p {.checking} s)
    (hjournal : s.journal = k.noteAll p.dues) (probeOk : Bool) :
    exists q healthy,
      machine.Drives env k (conclude p k.now probeOk) k (q, healthy) ∧ Reaches c q k s := by
  have hchanges : Changes .roomy k.now p {.checking} (conclude p k.now probeOk).1 0 :=
    changes_conclude p probeOk
  have hsame : (conclude p k.now probeOk).1.dues = p.dues := by
    simp [conclude, report, dues, emit, PoolEvent.dues]
  refine ⟨_, _, .done _ _ _, ?_, ?_⟩
  · exact h.serves (.of_slots rfl rfl rfl rfl rfl) rfl h.queue (Fit.changes hchanges h.fit)
  · exact hjournal.trans (congrArg k.noteAll hsame.symm)

/-- Whether a probe for which there was no connection speaks against the pool. -/
theorem settleProbe_error (p : ConnectionPool) (now : Instant) (e : PoolError) :
    exists probeOk, settleProbe p now (.error e) = conclude p now probeOk := by
  cases e with
  | exhausted name =>
      exact ⟨true, rfl⟩
  | _ =>
      exact ⟨false, rfl⟩

theorem drives_probe (env : Surroundings) (h : Shows c p {.checking} s) (hready : s.ready = true)
    (hdues : p.dues = []) :
    exists q k healthy,
      machine.Drives env s.journal (probe p s.journal.now) k (q, healthy) ∧
        Reaches c q k (s.probe env c) := by
  rw [probe_eq]
  unfold Reference.probe
  cases hfull : s.isFull c with
  | true =>
      have hjournal : s.journal = s.journal.noteAll p.dues := noteAll_of_no_dues hdues s.journal
      rcases drives_conclude env h hjournal true with ⟨q, healthy, hdrives, hreached⟩
      rw [Checkout.start_of_full h rfl hready hfull]
      exact ⟨q, s.journal, healthy, hdrives, hreached⟩
  | false =>
      rcases Checkout.drives_start env .healthCheck h rfl hready hfull with ⟨q, hdrives, hends⟩
      cases hserve : env.serve c [] s.queue s.journal with
      | mk k queue result =>
          rw [hserve] at hdrives hends
          have hdues' : q.dues = [] := hends.dues.trans hdues
          cases result with
          | error e =>
              have hfit := hends.fit
              rw [show leased (.error e) = 0 from rfl, zero_add] at hfit
              have hshows : Shows c q {.checking} { s with journal := k, queue := queue } :=
                h.serves hends.serves rfl hends.idle hfit
              have hjournal : k = k.noteAll q.dues := noteAll_of_no_dues hdues' k
              rcases settleProbe_error q k.now e with ⟨probeOk, hsettle⟩
              rcases drives_conclude env hshows hjournal probeOk with ⟨r, healthy, hrest, hreached⟩
              rw [← hsettle] at hrest
              exact ⟨r, k, healthy, Machine.Drives.within checkout_within hdrives hrest, hreached⟩
          | ok d =>
              have hfit := hends.fit
              rw [← add_assoc] at hfit
              have hshows : Shows c q ({.lent d.connection} + {.checking})
                  { s with journal := k, queue := queue } :=
                h.serves hends.serves rfl hends.idle hfit
              rcases hshows.giveBack hdues' with ⟨hback, hjournal⟩
              rcases drives_conclude env hback hjournal true with ⟨r, healthy, hrest, hreached⟩
              exact ⟨r, k, healthy, Machine.Drives.within checkout_within hdrives hrest, hreached⟩

theorem start_eq (hready : p.isReady = true) (now : Instant) :
    start p now =
      Machine.closeThen evicting refill (p.takeExpired now).1 now (p.takeExpired now).2 := by
  unfold start
  rw [hready]
  cases p.takeExpired now with
  | mk q ds =>
      cases ds with
      | nil | cons d rest =>
          rfl

theorem drives_start (env : Surroundings) (h : Shows c p 0 s) (hdues : p.dues = []) :
    exists q k healthy,
      machine.Drives env s.journal (start p s.journal.now) k (q, healthy) ∧
        Reaches c q k (s.checkup env c) := by
  unfold Reference.checkup
  by_cases hready : s.ready = true
  · rw [if_pos hready]
    have hpool : p.isReady = true := h.ready.trans hready
    let evicted : Reference := { s with
      journal := env.closeAll c s.journal
        ((s.queue.filter (isExpired c s.journal.now)).map (·.connection))
      queue := s.queue.filter fun e => !isExpired c s.journal.now e }
    have hshows : Shows c (p.takeExpired s.journal.now).1 {.checking} evicted := by
      have hfit := h.fit.gain s.journal.now (Change.check hpool)
      rw [zero_add] at hfit
      have hevicted := hfit.change s.journal.now (Change.evict p)
      rw [add_right_comm] at hevicted
      refine h.serves (.takeExpired p s.journal.now) rfl ?_ hevicted.of_add_doomed
      rw [takeExpired_eq, h.config, h.queue]
    rcases drives_refill env hshows rfl with ⟨q, hrefilled, hdues', hrefill⟩
    have hnone : q.dues = [] := by
      rw [hdues', takeExpired_eq]
      exact hdues
    rcases drives_probe env hrefilled ((evicted.ready_refill env c _).trans hready) hnone with
      ⟨r, k, healthy, hprobe, hreached⟩
    refine ⟨r, k, healthy, ?_, hreached⟩
    rw [start_eq hpool]
    apply Machine.Drives.closeThen closes
    have hclosed : env.closeAll (p.takeExpired s.journal.now).1.config s.journal
        (p.takeExpired s.journal.now).2 = evicted.journal := by
      rw [takeExpired_eq, h.queue, h.config]
      show env.closeAll p.config s.journal _ = _
      rw [h.config]
    rw [hclosed]
    exact hrefill _ _ hprobe
  · rw [if_neg hready]
    have hstart : start p s.journal.now = (p, .done false) := by
      unfold start
      rw [h.ready, if_pos (by simp [hready])]
    rw [hstart]
    exact ⟨p, s.journal, false, .done _ _ _, .of_shows h hdues⟩

theorem serves_of_drives {env : Surroundings} {healthy : Bool}
    (h : machine.Drives env j (start p j.now) k (q, healthy)) : Serves p q :=
  Machine.Drives.invariant (fun _ _ _ _ hserves => hserves.trans (serves_step _ _ _)) h
    (serves_start p)

end Checkup

namespace Maintenance

def progress : Maintenance -> Progress Maintenance Instant
  | resting due => .done due
  | checking due k => .waiting (checking due k)

def machine : Machine Maintenance Instant where
  await
    | _, resting _ => .pause .zero
    | c, checking _ k => k.await c
  step := fun p now m r => ((m.step p now r).1, progress (m.step p now r).2)

def rest (due : Instant) (p : ConnectionPool) (_ : Instant) (_ : Bool) :
    ConnectionPool × Progress Maintenance Instant := (p, .done due)

theorem progress_settle (due now : Instant) (x : ConnectionPool × Progress Checkup Bool) :
    ((settle due x).1, progress (settle due x).2) =
      Machine.resume (checking due) (rest due) now x := by
  cases x with
  | mk q progress =>
      cases progress with
      | waiting k | done healthy =>
          rfl

theorem checkup_within (due : Instant) :
    Checkup.machine.Within machine (checking due) (rest due) where
  await := fun _ _ => rfl
  step := fun p now k r => progress_settle due now (k.step p now r)

theorem drives_tick (env : Surroundings) (h : Shows c p 0 s) (hdues : p.dues = [])
    (due : Instant) :
    exists q k next,
      machine.Drives env s.journal (machine.step p s.journal.now (resting due) .stirred) k
        (q, next) ∧ Reaches c q k (s.checkup env c) := by
  rcases Checkup.drives_start env h hdues with ⟨q, k, healthy, hdrives, hreached⟩
  refine ⟨q, k, nextDue p.config.healthCheckInterval due s.journal.now, ?_, hreached⟩
  show machine.Drives env s.journal ((tick p due _).1, progress (tick p due _).2) k _
  unfold tick
  rw [progress_settle _ s.journal.now]
  exact Machine.Drives.within (checkup_within _) hdrives (.done _ _ _)

theorem serves_of_drives {due next : Instant}
    (h : machine.Drives env j (machine.step p j.now (resting due) .stirred) k (q, next)) :
    Serves p q :=
  Machine.Drives.invariant (fun _ _ _ _ hserves => hserves.trans (serves_step _ _ _)) h
    (serves_step p _ _)

end Maintenance
end PoolHealth
