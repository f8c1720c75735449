import PoolHealth.Proofs.Pool.Cutoff
import PoolHealth.Proofs.Pool.Permits
import PoolHealth.Proofs.Pool.Recycling
import PoolHealth.Proofs.Pool.RecentErrors
import PoolHealth.Proofs.Sequential.Calls

/-!
# What a health check leaves behind

A health check of a pool at which nothing else is under way, with a backend that answers at once,
takes no time, and it is plain what it does: expired connections go, missing ones come, and one is
probed.  If none is idle by then and a slot is free, one more is opened for the probe.

A pool that is ready although its slots are closed is another matter.
-/

namespace PoolHealth

open ConnectionPool

variable {c : PoolConfig} {p q : ConnectionPool} {now : Instant} {loans : Nat}
variable {env : Surroundings} {j k : Journal}

/-!
## A backend that answers at once
-/

namespace Surroundings

structure Prompt (env : Surroundings) : Prop where
  creation : forall j, exists d, env.creation j = (.zero, .ok d)
  validation : forall j d, env.validation j d = (.zero, true)
  closure : forall j d, env.closure j d = (.zero, .ok ())

theorem limited_zero {α : Type} (limit : Duration) (j : Journal) (r : BackendRequest) (a : α) :
    env.limited limit j r (.zero, a) = (j.note r, some a) := by
  have hle : Duration.zero ≤ env.alarm limit := Nat.zero_le _
  exact if_pos hle

theorem Prompt.now_closeAll (h : env.Prompt) (c : PoolConfig) (j : Journal)
    (ds : List Connection) : (env.closeAll c j ds).now = j.now := by
  induction ds generalizing j with
  | nil =>
      rfl
  | cons d rest ih =>
      refine (ih (env.close c j d)).trans ?_
      unfold close
      rw [h.closure, limited_zero]
      rfl

theorem Prompt.attempt (h : env.Prompt) (c : PoolConfig) (j : Journal) :
    exists d, env.attempt c j = (j.note .create, .ok d) := by
  rcases h.creation j with ⟨d, hd⟩
  refine ⟨d, ?_⟩
  unfold Surroundings.attempt
  rw [hd, limited_zero]

theorem Prompt.probe (h : env.Prompt) (c : PoolConfig) (j : Journal) (d : Connection) :
    env.probe c j d = (j.note (.validate d), true) := by
  unfold Surroundings.probe
  rw [h.validation, limited_zero]

end Surroundings

theorem Opening.drives_promptly (henv : env.Prompt) (p : ConnectionPool) (j : Journal) :
    exists d, machine.Drives env j (p, .waiting first) (j.note .create) (p, .ok d) := by
  rcases henv.attempt p.config j with ⟨d, hattempt⟩
  exact ⟨d, drives_attempt hattempt (.done _ p (Except.ok d))⟩

/-!
## A pool at rest
-/

structure AtRest (loans : Nat) (p : ConnectionPool) : Prop where
  ready : p.isReady = true
  free : p.slots.free + loans = p.config.maxSize.toNat
  line : p.slots.queue = []
  active : p.stats.active = loans
  total : p.stats.total = loans + p.idle.length
  pending : p.pending = 0

/-- In the course of a health check the pool is at rest from time to time, and nothing in its queue
is expired by then. -/
structure Checking (now : Instant) (loans : Nat) (p q : ConnectionPool) : Prop where
  rest : AtRest loans q
  live : forall e, e ∈ q.idle -> isExpired q.config now e = false
  config : q.config = p.config
  hits : q.stats.hits = p.stats.hits
  errors : q.errors = p.errors
  closed : q.slots.closed = p.slots.closed

theorem Checking.trans {r : ConnectionPool} (h : Checking now loans p q)
    (h' : Checking now loans q r) : Checking now loans p r where
  rest := h'.rest
  live := h'.live
  config := h'.config.trans h.config
  hits := h'.hits.trans h.hits
  errors := h'.errors.trans h.errors
  closed := h'.closed.trans h.closed

namespace AtRest

theorem tryTake_of_closed (hclosed : p.slots.closed = true) : p.slots.tryTake = .closed := by
  unfold Semaphore.tryTake
  rw [if_pos hclosed]

theorem tryTake_of_full (h : AtRest loans p) (hopen : p.slots.closed = false)
    (hfull : loans = p.config.maxSize.toNat) : p.slots.tryTake = .noneFree := by
  have hfree := h.free
  unfold Semaphore.tryTake
  rw [hopen, if_neg Bool.false_ne_true, if_pos (by omega)]

theorem tryTake_of_free (h : AtRest loans p) (hopen : p.slots.closed = false)
    (hroom : loans < p.config.maxSize.toNat) :
    p.slots.tryTake = .taken { p.slots with free := p.slots.free - 1 } := by
  have hfree := h.free
  unfold Semaphore.tryTake
  rw [if_neg (by simp [hopen]), if_neg (by omega)]

theorem release_of_taken {s : Semaphore} (hline : s.queue = []) (hfree : 0 < s.free) :
    Semaphore.release { s with free := s.free - 1 } = s := by
  rcases s with ⟨free, closed, queue, promised, nextTicket⟩
  cases hline
  have hsame : free - 1 + 1 = free := Nat.sub_add_cancel hfree
  show Semaphore.mk (free - 1 + 1) closed [] promised nextTicket = _
  rw [hsame]

end AtRest

def ConnectionPool.lessOne (p : ConnectionPool) : ConnectionPool :=
  { p with slots := { p.slots with free := p.slots.free - 1 } }

/-!
## Closing what has expired
-/

theorem AtRest.evicted (h : AtRest loans p) (now : Instant) :
    Checking now loans p (p.takeExpired now).1 ∧
      (p.takeExpired now).1.stats.total =
        loans + (p.idle.filter fun e => !isExpired p.config now e).length := by
  have hsplit := length_takeExpired p now
  have htotal := h.total
  rw [takeExpired_eq]
  have hleft : (p.recordClosures (p.idle.filter (isExpired p.config now)).length).stats.total =
      loans + (p.idle.filter fun e => !isExpired p.config now e).length := by
    show p.stats.total - _ = _
    omega
  refine ⟨⟨⟨h.ready, h.free, h.line, h.active, hleft, h.pending⟩, ?_, rfl, rfl, rfl, rfl⟩, hleft⟩
  intro e he
  have hlive : isExpired p.config now e = false := by
    simpa using (List.mem_filter.mp he).2
  exact hlive

def Surroundings.evict (env : Surroundings) (p : ConnectionPool) (now : Instant) (j : Journal) :
    Journal :=
  env.closeAll (p.takeExpired now).1.config j (p.takeExpired now).2

theorem Surroundings.Prompt.now_evict (henv : env.Prompt) (p : ConnectionPool) (now : Instant)
    (j : Journal) : (env.evict p now j).now = j.now := henv.now_closeAll _ _ _

theorem Checkup.drives_start_promptly {l : Journal} {y : ConnectionPool × Bool} (henv : env.Prompt)
    (hready : p.isReady = true) (hnow : j.now = now)
    (h : machine.Drives env (env.evict p now j) (refill (p.takeExpired now).1 now) l y) :
    machine.Drives env j (start p now) l y := by
  subst hnow
  rw [start_eq hready]
  apply Machine.Drives.closeThen closes
  rw [henv.now_closeAll]
  exact h

/-!
## Opening what is missing
-/

namespace Checkup

theorem replenished_rest (h : AtRest loans p) (hroom : loans < p.config.maxSize.toNat)
    (hlife : 0 < p.config.maxLifetime.nanos) (hidle : 0 < p.config.idleTimeout.nanos)
    (hlive : forall e, e ∈ p.idle -> isExpired p.config now e = false) (d : Connection) :
    Checking now loans p (replenished p.lessOne.addPending now d) ∧
      (replenished p.lessOne.addPending now d).stats.total = p.stats.total + 1 := by
  have hfree := h.free
  have htotal := h.total
  have hpending := h.pending
  have hslots : p.lessOne.slots.release = p.slots := AtRest.release_of_taken h.line (by omega)
  unfold replenished
  rw [releaseSlot_eq]
  refine ⟨⟨⟨h.ready, ?_, ?_, h.active, ?_, ?_⟩, ?_, rfl, rfl, rfl, ?_⟩, rfl⟩
  · show p.lessOne.slots.release.free + loans = p.config.maxSize.toNat
    rw [hslots]
    exact hfree
  · show p.lessOne.slots.release.queue = []
    rw [hslots]
    exact h.line
  · show p.stats.total + 1 = loans + (p.idle ++ [_]).length
    rw [List.length_append, List.length_singleton]
    omega
  · show p.pending + 1 - 1 = 0
    omega
  · intro e he
    rcases List.mem_append.mp he with he | he
    · exact hlive e he
    · rw [List.mem_singleton.mp he]
      exact isExpired_of_new hlife hidle d
  · show p.lessOne.slots.release.closed = p.slots.closed
    rw [hslots]

/-- As long as slots can be had, the pool is brought up to its least size. -/
theorem drives_refill_promptly (henv : env.Prompt) (hc : p.config.fault? = none)
    (hrest : AtRest loans p) (hlive : forall e, e ∈ p.idle -> isExpired p.config now e = false)
    (hopen : p.slots.closed = false) (hnow : j.now = now) {n : Nat}
    (hmissing : p.config.minSize.toNat - p.stats.total = n) :
    exists q k, Checking now loans p q ∧ k.now = now ∧
      q.stats.total = max p.stats.total p.config.minSize.toNat ∧
      forall l y, machine.Drives env k (probe q now) l y ->
        machine.Drives env j (refill p now) l y := by
  subst hnow
  have hpending := hrest.pending
  have htotal := hrest.total
  have hsizes := PoolConfig.minSize_le_of_fault?_eq_none hc
  -- By induction on how many connections are missing.
  induction n generalizing p j with
  | zero =>
      have hnone : p.reserveRefill? = none := by
        unfold reserveRefill?
        rw [if_pos (by omega)]
      refine ⟨p, j, ⟨hrest, hlive, rfl, rfl, rfl, rfl⟩, rfl, by omega, ?_⟩
      intro l y hprobe
      unfold refill
      rw [hnone]
      exact hprobe
  | succ n ih =>
      have hroom : loans < p.config.maxSize.toNat := by omega
      have hlife := PoolConfig.timeouts_pos hc (List.mem_of_getElem? (i := 2) rfl)
      have hidle := PoolConfig.timeouts_pos hc (List.mem_of_getElem? (i := 1) rfl)
      have hreserve : p.reserveRefill? = some p.addPending := by
        unfold reserveRefill?
        rw [if_neg (by omega)]
      have hrefill : refill p j.now = (p.lessOne.addPending, .waiting (refilling .first)) := by
        have htaken := hrest.tryTake_of_free hopen hroom
        have htaken' : p.addPending.slots.tryTake = _ := htaken
        unfold refill
        rw [hreserve]
        simp only [htaken']
        rfl
      rcases Opening.drives_promptly henv p.lessOne.addPending j with ⟨d, hopening⟩
      rcases replenished_rest hrest hroom hlife hidle hlive d with ⟨hfirst, hmore⟩
      let p' := replenished p.lessOne.addPending j.now d
      have hsame : p'.config = p.config := hfirst.config
      have hmore' : p'.stats.total = p.stats.total + 1 := hmore
      have hmissing' : p'.config.minSize.toNat - p'.stats.total = n := by
        rw [hsame]
        omega
      have hc' : p'.config.fault? = none := by
        rw [hsame]
        exact hc
      have hsizes' : p'.config.minSize.toNat ≤ p'.config.maxSize.toNat := by
        rw [hsame]
        exact hsizes
      rcases ih (p := p') (j := j.note .create) hc' hfirst.rest (hfirst.closed.trans hopen)
        hmissing' hfirst.live hfirst.rest.pending hfirst.rest.total hsizes' with
        ⟨q, k, hlater, hnow, hreached, hdrives⟩
      refine ⟨q, k, hfirst.trans hlater, hnow, ?_, ?_⟩
      · rw [hreached, hsame]
        omega
      · intro l y hprobe
        rw [hrefill]
        exact Machine.Drives.within opening_within hopening (hdrives l y hprobe)

/-!
## Probing a connection
-/

structure Probing (now : Instant) (loans : Nat) (p q : ConnectionPool) : Prop where
  slots : q.slots = p.lessOne.slots
  ready : q.isReady = true
  active : q.stats.active = loans + 1
  total : q.stats.total = loans + 1 + q.idle.length
  pending : q.pending = 0
  live : forall e, e ∈ q.idle -> isExpired q.config now e = false
  config : q.config = p.config
  hits : q.stats.hits = p.stats.hits
  errors : q.errors = p.errors

theorem Probing.giveBack (h : Probing now loans p q) (hrest : AtRest loans p)
    (hroom : loans < p.config.maxSize.toNat) {l : Lease} (hreuse : q.isReusable now l = true)
    (hidle : 0 < p.config.idleTimeout.nanos) :
    Checking now loans p (q.giveBack now l true) ∧
      (q.giveBack now l true).stats.total = q.stats.total := by
  have hfree := hrest.free
  have hslots : q.slots.release = p.slots := by
    rw [h.slots]
    exact AtRest.release_of_taken hrest.line (by omega)
  have hidle' : 0 < q.config.idleTimeout.nanos := by
    rw [h.config]
    exact hidle
  rcases (isReusable_iff hidle' l).mp hreuse with ⟨_, _, hlive⟩
  rw [giveBack_of_isReusable hreuse, releaseSlot_eq]
  refine ⟨⟨⟨h.ready, ?_, ?_, ?_, ?_, h.pending⟩, ?_, h.config, h.hits, h.errors, ?_⟩, rfl⟩
  · show q.slots.release.free + loans = q.config.maxSize.toNat
    rw [hslots, h.config]
    exact hfree
  · show q.slots.release.queue = []
    rw [hslots]
    exact hrest.line
  · show q.stats.active - 1 = loans
    rw [h.active]
    rfl
  · show q.stats.total = loans + (q.idle ++ [_]).length
    rw [h.total, List.length_append, List.length_singleton]
    omega
  · intro e he
    rcases List.mem_append.mp he with he | he
    · exact h.live e he
    · rw [List.mem_singleton.mp he]
      exact hlive
  · show q.slots.release.closed = p.slots.closed
    rw [hslots]

theorem conclude_rest (hrest : AtRest loans p)
    (hlive : forall e, e ∈ p.idle -> isExpired p.config now e = false) (probeOk : Bool) :
    Checking now loans p (conclude p now probeOk).1 ∧
      (conclude p now probeOk).1.stats.total = p.stats.total ∧
      (conclude p now probeOk).2 = .done (probeOk && fewErrors p now) := by
  refine ⟨⟨⟨hrest.ready, hrest.free, hrest.line, hrest.active, hrest.total, hrest.pending⟩, hlive,
    rfl, rfl, rfl, rfl⟩, rfl, ?_⟩
  unfold conclude
  rw [hrest.ready, Bool.and_true]

theorem Probing.isReusable (h : Probing now loans p q) (hidle : 0 < p.config.idleTimeout.nanos)
    {l : Lease} (hbroken : l.broken = false)
    (hlive : isExpired p.config now ⟨l.connection, l.createdAt, now⟩ = false) :
    q.isReusable now l = true := by
  rw [← h.config] at hidle hlive
  exact (isReusable_iff hidle l).mpr ⟨h.ready, hbroken, hlive⟩

theorem probing_picked (hrest : AtRest loans p)
    (hlive : forall e, e ∈ p.idle -> isExpired p.config now e = false) {e : IdleConnection}
    {rest : List IdleConnection} (hqueue : p.idle = e :: rest) :
    Probing now loans p (p.lessOne.afterPick 0 rest) := by
  have htotal := hrest.total
  refine ⟨rfl, hrest.ready, ?_, ?_, hrest.pending, ?_, rfl, rfl, rfl⟩
  · show p.stats.active + 1 = loans + 1
    rw [hrest.active]
  · show p.stats.total - 0 = loans + 1 + rest.length
    rw [hqueue, List.length_cons] at htotal
    omega
  · intro x hx
    apply hlive
    rw [hqueue]
    exact List.mem_cons_of_mem e hx

structure Kept (p q : ConnectionPool) : Prop where
  slots : q.slots = p.slots
  phase : q.phase = p.phase
  config : q.config = p.config
  hits : q.stats.hits = p.stats.hits
  errors : q.errors = p.errors

theorem Kept.trans {r : ConnectionPool} (h : Kept p q) (h' : Kept q r) : Kept p r where
  slots := h'.slots.trans h.slots
  phase := h'.phase.trans h.phase
  config := h'.config.trans h.config
  hits := h'.hits.trans h.hits
  errors := h'.errors.trans h.errors

theorem kept_afterSweep (p : ConnectionPool) : Kept p p.afterSweep :=
  ⟨rfl, rfl, rfl, rfl, rfl⟩

theorem kept_recordCreation (p : ConnectionPool) : Kept p p.addPending.recordCreation :=
  ⟨rfl, rfl, rfl, rfl, rfl⟩

theorem kept_dropPending (p : ConnectionPool) : Kept p p.addActive.dropPending :=
  ⟨rfl, rfl, rfl, rfl, rfl⟩

theorem probing_opened (hrest : AtRest loans p) :
    Probing now loans p
      p.lessOne.afterSweep.addPending.recordCreation.addActive.dropPending := by
  have hkept : Kept p.lessOne _ :=
    ((kept_afterSweep p.lessOne).trans (kept_recordCreation _)).trans (kept_dropPending _)
  have htotal := hrest.total
  have hready : p.phase == .ready := hrest.ready
  refine ⟨hkept.slots, ?_, ?_, ?_, ?_, ?_, hkept.config, hkept.hits, hkept.errors⟩
  · unfold isReady
    rw [hkept.phase]
    exact hready
  · show p.stats.active + 1 = loans + 1
    rw [hrest.active]
  · show p.stats.total - p.idle.length + 1 = loans + 1 + 0
    omega
  · show p.pending + 1 - 1 = 0
    rw [hrest.pending]
  · intro x hx
    cases hx

theorem exists_probing (henv : env.Prompt) (hc : p.config.fault? = none) (hrest : AtRest loans p)
    (hlive : forall e, e ∈ p.idle -> isExpired p.config j.now e = false) :
    exists q k l, (Checkout.machine .healthCheck).Drives env j (Checkout.begun p.lessOne j.now) k
        (q, .ok l) ∧
      k.now = j.now ∧ Probing j.now loans p q ∧ q.isReusable j.now l = true ∧
      q.stats.total = if p.idle = [] then p.stats.total + 1 else p.stats.total := by
  have hlife := PoolConfig.timeouts_pos hc (List.mem_of_getElem? (i := 2) rfl)
  have hidle := PoolConfig.timeouts_pos hc (List.mem_of_getElem? (i := 1) rfl)
  rcases takeIdle_cases p.lessOne j.now with
    ⟨expired, e, rest, hsplit, hexpired, hfresh, htake⟩ | ⟨hexpired, htake⟩
  · have hnone : expired = [] := by
      apply List.eq_nil_iff_forall_not_mem.mpr
      intro x hx
      have hmem : x ∈ p.lessOne.idle := by
        rw [hsplit]
        exact List.mem_append_left _ hx
      have hyes := hexpired x hx
      have hno : isExpired p.lessOne.config j.now x = false := hlive x hmem
      rw [hno] at hyes
      cases hyes
    subst hnone
    have hqueue : p.idle = e :: rest := hsplit
    have hyoung : isExpired p.config j.now e = false := hfresh
    let l : Lease := { connection := e.connection, createdAt := e.createdAt }
    have hprobe := henv.probe p.config j e.connection
    have hprobing := probing_picked hrest hlive hqueue
    rw [Checkout.begun_eq htake]
    refine ⟨p.lessOne.afterPick 0 rest, j.note (.validate e.connection), l,
      Checkout.drives_probe hprobe (.done _ _ (Except.ok l)), rfl, hprobing,
      hprobing.isReusable hidle rfl (isExpired_of_used hidle hyoung), ?_⟩
    rw [if_neg (by rw [hqueue]; exact List.cons_ne_nil e rest)]
    rfl
  · have hnone : p.idle = [] := by
      apply List.eq_nil_iff_forall_not_mem.mpr
      intro x hx
      have hyes : isExpired p.config j.now x = true := hexpired x hx
      rw [hlive x hx] at hyes
      cases hyes
    have htake' : p.lessOne.takeIdle j.now = (p.lessOne.afterSweep, none, []) := by
      rw [htake]
      show (_, none, p.idle.map _) = _
      rw [hnone]
      rfl
    rcases Opening.drives_promptly henv p.lessOne.afterSweep.addPending j with ⟨d, hopening⟩
    let l : Lease := { connection := d, createdAt := j.now }
    have hprobing : Probing j.now loans p _ := probing_opened hrest
    rw [Checkout.begun_eq htake']
    refine ⟨_, j.note .create, l,
      Machine.Drives.within Checkout.opening_within hopening (.done _ _ (Except.ok l)), rfl,
      hprobing, hprobing.isReusable hidle rfl (isExpired_of_new hlife hidle d), ?_⟩
    rw [if_pos hnone]
    show p.stats.total - p.idle.length + 1 = p.stats.total + 1
    rw [hnone]
    rfl

/-- The probe goes well.  If none is idle and a slot is free, one is opened for it. -/
theorem drives_probe_promptly (henv : env.Prompt) (hc : p.config.fault? = none)
    (hrest : AtRest loans p) (hlive : forall e, e ∈ p.idle -> isExpired p.config now e = false)
    (hopen : p.slots.closed = false) (hnow : j.now = now) :
    exists q k, machine.Drives env j (probe p now) k (q, fewErrors p now) ∧
      Checking now loans p q ∧
      q.stats.total =
        if p.idle = [] ∧ loans < p.config.maxSize.toNat then p.stats.total + 1
        else p.stats.total := by
  subst hnow
  have hready := hrest.ready
  rw [probe_eq]
  by_cases hroom : loans < p.config.maxSize.toNat
  · have hstart : Checkout.start p j.now = Checkout.begun p.lessOne j.now := by
      unfold Checkout.start
      rw [hready, hrest.tryTake_of_free hopen hroom]
      rfl
    have hidle := PoolConfig.timeouts_pos hc (List.mem_of_getElem? (i := 1) rfl)
    rcases exists_probing henv hc hrest hlive with
      ⟨q, k, l, hdrives, hnow, hprobing, hreuse, htotal⟩
    rcases hprobing.giveBack hrest hroom hreuse hidle with ⟨hback, hsame⟩
    rcases conclude_rest hback.rest hback.live true with ⟨hdone, hsame', hverdict⟩
    refine ⟨_, k, ?_, hback.trans hdone, ?_⟩
    · rw [hstart]
      refine Machine.Drives.within checkout_within hdrives ?_
      rw [hnow]
      have hfew : fewErrors (q.giveBack j.now l true) j.now = fewErrors p j.now := by
        unfold fewErrors
        rw [hback.errors, hback.config]
      rw [Bool.true_and, hfew] at hverdict
      exact .of_done (Prod.ext rfl hverdict)
    · rw [hsame', hsame, htotal]
      simp only [hroom, and_true]
  · have hfull : loans = p.config.maxSize.toNat := by
      have hfree := hrest.free
      omega
    have hstart : Checkout.start p j.now = (p, .done (.error (.exhausted p.name))) := by
      unfold Checkout.start
      rw [hready, hrest.tryTake_of_full hopen hfull]
      rfl
    rcases conclude_rest hrest hlive true with ⟨hdone, hsame, hverdict⟩
    refine ⟨_, j, ?_, hdone, ?_⟩
    · rw [hstart]
      rw [Bool.true_and] at hverdict
      exact .of_done (Prod.ext rfl hverdict)
    · rw [hsame, if_neg (fun hboth => hroom hboth.2)]

/-!
## Slots that cannot be had
-/

/-- A pool whose slots are closed is neither filled nor probed. -/
theorem drives_refill_barred (env : Surroundings) (hrest : AtRest loans p)
    (hlive : forall e, e ∈ p.idle -> isExpired p.config now e = false)
    (hclosed : p.slots.closed = true) (j : Journal) :
    exists q, machine.Drives env j (refill p now) j (q, false) ∧ Checking now loans p q ∧
      q.stats.total = p.stats.total := by
  have hbarred : forall {r : ConnectionPool}, AtRest loans r -> r.slots = p.slots ->
      probe r now = conclude r now false := by
    intro r hr hslots
    have hstart : Checkout.start r now = (r, .done (.error r.notInitialized)) := by
      unfold Checkout.start
      rw [hr.ready, hslots, AtRest.tryTake_of_closed hclosed]
      rfl
    rw [probe_eq, hstart]
    rfl
  have hdrives : forall {r : ConnectionPool}, AtRest loans r ->
      machine.Drives env j (conclude r now false) j ((conclude r now false).1, false) := by
    intro r hr
    unfold conclude
    exact .done _ _ _
  unfold refill
  cases hreserve : p.reserveRefill? with
  | none =>
      rcases conclude_rest hrest hlive false with ⟨hdone, hsame, _⟩
      refine ⟨_, ?_, hdone, hsame⟩
      rw [hbarred hrest rfl]
      exact hdrives hrest
  | some reserved =>
      rcases reserveRefill?_eq_some hreserve with ⟨_, _, rfl⟩
      have hback : AtRest loans p.addPending.dropPending :=
        ⟨hrest.ready, hrest.free, hrest.line, hrest.active, hrest.total, hrest.pending⟩
      have htake : p.addPending.slots.tryTake = .closed := AtRest.tryTake_of_closed hclosed
      rcases conclude_rest hback hlive false with ⟨hdone, hsame, _⟩
      refine ⟨(conclude p.addPending.dropPending now false).1, ?_, ?_, hsame⟩
      · simp only [htake]
        rw [hbarred hback rfl]
        exact hdrives hback
      · exact ⟨hdone.rest, hdone.live, hdone.config, hdone.hits, hdone.errors, hdone.closed⟩

end Checkup

/-!
## What remains
-/

namespace Traffic

variable {s t : Traffic} {log : Log}

def loanCount (s : Traffic) : Nat := s.parties.countP Party.isBorrower

def liveCount (s : Traffic) : Nat :=
  (s.pool.idle.filter fun e => !isExpired s.pool.config s.now e).length

theorem Run.atRest (h : Run (ofConfig c) log t) (hready : t.pool.isReady = true)
    (halone : forall x, x ∈ t.parties -> x.isUnderway = false)
    (hactive : t.pool.stats.active = t.loanCount) : AtRest t.loanCount t.pool := by
  have hbalanced := h.balanced
  have hslots := hbalanced.slots
  have hpending := hbalanced.pending
  have htotal := hbalanced.total
  have hnowhere := fun x hx => Party.counts_nowhere t.pool.slots (halone x hx)
  have hnone : forall P : Party -> Bool, (forall x, x ∈ t.parties -> P x = false) ->
      t.parties.countP P = 0 := by
    intro P hP
    rw [List.countP_eq_zero]
    intro x hx
    rw [hP x hx]
    exact Bool.false_ne_true
  have htickets : t.tickets = [] := by
    apply List.flatMap_eq_nil_iff.mpr
    intro x hx
    have hqueued := (hnowhere x hx).1
    unfold Party.isQueued at hqueued
    unfold Party.tickets
    rw [Option.isSome_eq_false_iff, Option.isNone_iff_eq_none] at hqueued
    rw [hqueued]
    rfl
  have hline : t.pool.slots.tickets = [] := by
    apply List.eq_nil_iff_forall_not_mem.mpr
    intro ticket hticket
    have hknown := h.lined.known ticket
    rw [htickets, List.count_nil] at hknown
    have hpos := List.count_pos_iff.mpr hticket
    omega
  rcases List.append_eq_nil_iff.mp hline with ⟨hqueue, hpromised⟩
  rw [h.tally_slots, hnone _ fun x hx => (hnowhere x hx).2.2.1,
    hnone _ fun x hx => (hnowhere x hx).2.2.2.2, Semaphore.available] at hslots
  rw [h.tally_pending, hnone _ fun x hx => (hnowhere x hx).2.2.2.1,
    hnone _ fun x hx => (hnowhere x hx).2.2.2.2] at hpending
  refine ⟨hready, ?_, hqueue, hactive, ?_, hpending⟩
  · rw [hpromised] at hslots
    exact hslots
  · rw [← hactive]
    exact htotal

/-- What a health check leaves behind that was made of a pool at rest, and whether it finds the pool
healthy. -/
structure Checked (log : Log) (t : Traffic) (q : ConnectionPool) (healthy : Bool) : Prop where
  live : forall e, e ∈ q.idle -> isExpired t.pool.config t.now e = false
  active : q.stats.active = t.loanCount
  hits : q.stats.hits = t.pool.stats.hits
  /-- Slots can be had: the pool has its least size at least, and the probe goes well. -/
  served : t.pool.slots.closed = false ->
    q.stats.total =
        max (t.loanCount + t.liveCount) t.pool.config.minSize.toNat
          + (if max (t.loanCount + t.liveCount) t.pool.config.minSize.toNat = t.loanCount ∧
              t.loanCount < t.pool.config.maxSize.toNat then 1 else 0) ∧
      (healthy = true <->
        (ErrorWindow.recent t.pool.config.healthCheckInterval t.now (errorTimes log)).length
          ≤ ErrorWindow.tolerated)
  /-- No slot can be had: nothing is opened, and the probe fails. -/
  barred : t.pool.slots.closed = true ->
    q.stats.total = t.loanCount + t.liveCount ∧ healthy = false

theorem drives_served {env : Surroundings} (henv : env.Prompt) (hc : t.pool.config.fault? = none)
    (hrest : AtRest t.loanCount t.pool) (hopen : t.pool.slots.closed = false) {j : Journal}
    (hnow : j.now = t.now) :
    exists q k, Checkup.machine.Drives env j (Checkup.start t.pool t.now) k
        (q, Checkup.fewErrors t.pool t.now) ∧
      Checking t.now t.loanCount t.pool q ∧
      q.stats.total =
        max (t.loanCount + t.liveCount) t.pool.config.minSize.toNat
          + (if max (t.loanCount + t.liveCount) t.pool.config.minSize.toNat = t.loanCount ∧
              t.loanCount < t.pool.config.maxSize.toNat then 1 else 0) := by
  rcases hrest.evicted t.now with ⟨hevicted, hleft⟩
  have hopen' := hevicted.closed.trans hopen
  have hc' : (t.pool.takeExpired t.now).1.config.fault? = none := by
    rw [hevicted.config]
    exact hc
  have hlater := (henv.now_evict t.pool t.now j).trans hnow
  rcases Checkup.drives_refill_promptly henv hc' hevicted.rest hevicted.live hopen' hlater rfl with
    ⟨q, k, hfilled, hnow', hfull, hrefill⟩
  have hc'' : q.config.fault? = none := by
    rw [hfilled.config]
    exact hc'
  rcases Checkup.drives_probe_promptly henv hc'' hfilled.rest hfilled.live
    (hfilled.closed.trans hopen') hnow' with ⟨r, l, hprobe, hprobed, htotal⟩
  have hbefore := hevicted.trans hfilled
  have hfew : Checkup.fewErrors q t.now = Checkup.fewErrors t.pool t.now := by
    unfold Checkup.fewErrors
    rw [hbefore.errors, hbefore.config]
  rw [hfew] at hprobe
  refine ⟨r, l, ?_, hbefore.trans hprobed, ?_⟩
  · exact Checkup.drives_start_promptly henv hrest.ready hnow (hrefill l _ hprobe)
  · have hqueue := hfilled.rest.total
    have hempty : q.idle = [] <-> q.stats.total = t.loanCount := by
      rw [← List.length_eq_zero_iff]
      omega
    rw [hleft, hevicted.config] at hfull
    rw [htotal, hbefore.config]
    simp only [hempty, hfull]
    unfold liveCount
    split
    · rfl
    · rfl

theorem drives_barred {env : Surroundings} (henv : env.Prompt)
    (hrest : AtRest t.loanCount t.pool) (hclosed : t.pool.slots.closed = true) {j : Journal}
    (hnow : j.now = t.now) :
    exists q k, Checkup.machine.Drives env j (Checkup.start t.pool t.now) k (q, false) ∧
      Checking t.now t.loanCount t.pool q ∧ q.stats.total = t.loanCount + t.liveCount := by
  rcases hrest.evicted t.now with ⟨hevicted, hleft⟩
  rcases Checkup.drives_refill_barred env hevicted.rest hevicted.live
    (hevicted.closed.trans hclosed) (env.evict t.pool t.now j) with
    ⟨q, hdrives, hchecking, htotal⟩
  exact ⟨q, _, Checkup.drives_start_promptly henv hrest.ready hnow hdrives,
    hevicted.trans hchecking, htotal.trans hleft⟩

/-- A health check of a pool at which nothing is under way but loans, each of them counted, comes to
an end if the backend answers at once, and there is only one end.  No expired connection is idle
then, loans and hits are what they were, and the number of connections is known; the pool is found
healthy if and only if few errors happened of late.  The exception is a pool whose slots are closed:
it is found ill.  There are such pools if and only if somebody who shut the pool down was dropped
while closing the idle connections. -/
theorem Run.healthCheck (hc : c.fault? = none) (h : Run (ofConfig c) log t)
    (hready : t.pool.isReady = true) (halone : forall x, x ∈ t.parties -> x.isUnderway = false)
    (hactive : t.pool.stats.active = t.loanCount) {env : Surroundings} (henv : env.Prompt)
    {j : Journal} (hnow : j.now = t.now) :
    (exists k q healthy,
        Checkup.machine.Drives env j (Checkup.start t.pool t.now) k (q, healthy) ∧
          (forall l z, Checkup.machine.Drives env j (Checkup.start t.pool t.now) l z ->
            z = (q, healthy)) ∧
          Checked log t q healthy) ∧
      (t.pool.slots.closed = true <-> exists e, e ∈ log ∧ cutsOff e = true) := by
  have hrest := h.atRest hready halone hactive
  have hconfig : t.pool.config = c := h.config_eq (settled_ofConfig c)
  refine ⟨?_, h.closed_iff_cut_off hready⟩
  cases hslots : t.pool.slots.closed with
  | false =>
      have hfault := hc
      rw [← hconfig] at hfault
      rcases drives_served henv hfault hrest hslots hnow with ⟨q, k, hdrives, hchecking, htotal⟩
      refine ⟨k, q, _, hdrives, fun l z hz => (hdrives.unique hz).2, ?_⟩
      have hlive := hchecking.live
      rw [hchecking.config] at hlive
      refine ⟨hlive, hchecking.rest.active, hchecking.hits, fun _ => ⟨htotal, ?_⟩, ?_⟩
      · unfold Checkup.fewErrors
        rw [decide_eq_true_eq]
        exact h.within_le_tolerated_iff t.pool.config.healthCheckInterval t.now
      · intro hclosed
        rw [hslots] at hclosed
        cases hclosed
  | true =>
      rcases drives_barred henv hrest hslots hnow with ⟨q, k, hdrives, hchecking, htotal⟩
      refine ⟨k, q, _, hdrives, fun l z hz => (hdrives.unique hz).2, ?_⟩
      have hlive := hchecking.live
      rw [hchecking.config] at hlive
      refine ⟨hlive, hchecking.rest.active, hchecking.hits, ?_, fun _ => ⟨htotal, rfl⟩⟩
      intro hopen
      rw [hslots] at hopen
      cases hopen

/-- A backend that answers at once, and numbers the connections by what it was asked for. -/
def swiftBackend : Surroundings where
  creation := fun j => (.zero, .ok ⟨j.requests.length⟩)
  validation := fun _ _ => (.zero, true)
  closure := fun _ _ => (.zero, .ok ())
  alarm := id

theorem prompt_swiftBackend : swiftBackend.Prompt where
  creation := fun j => ⟨⟨j.requests.length⟩, rfl⟩
  validation := fun _ _ => rfl
  closure := fun _ _ => rfl

theorem Run.errorTimes_eq_nil (h : Run (ofConfig c) log t) (hnone : t.pool.stats.errors = 0) :
    errorTimes log = [] := by
  have hcount := (h.errors_eq (settled_ofConfig c)).2
  rw [hnone] at hcount
  have hstart : (ofConfig c).pool.stats.errors = 0 := rfl
  exact List.eq_nil_of_length_eq_zero (by omega)

def oneLentOneExpired : List Action :=
  [.call .warmUp, .reply 0 (.created (.ok ⟨0⟩)), .reply 0 (.created (.ok ⟨1⟩)),
    .elapse (.ofMillis 50), .call .acquire, .reply 1 (.validated true), .elapse (.ofMillis 60)]

/-- The expired connection is replaced, and the pool is healthy. -/
theorem healthCheck_with_one_lent :
    pairConfig.fault? = none ∧
      exists log t, Run (ofConfig pairConfig) log t ∧
        log.map (fun e => e.2) = oneLentOneExpired ∧ t.pool.isReady = true ∧
        (forall x, x ∈ t.parties -> x.isUnderway = false) ∧ t.pool.stats.active = t.loanCount ∧
        t.loanCount = 1 ∧ t.liveCount = 0 ∧ swiftBackend.Prompt ∧
        exists k q, Checkup.machine.Drives swiftBackend ⟨t.now, []⟩ (Checkup.start t.pool t.now) k
          (q, true) ∧ q.stats.total = 2 := by
  have hsettings : pairConfig.fault? = none := by decide +kernel
  have hrun : ((ofConfig pairConfig).run oneLentOneExpired).any
      (fun t => t.pool.isReady = true ∧ (t.parties.all fun x => !x.isUnderway) = true ∧
        t.pool.stats.active = t.loanCount ∧ t.loanCount = 1 ∧ t.liveCount = 0 ∧
        t.pool.slots.closed = false ∧ t.pool.stats.errors = 0) = true := by
    decide +kernel
  rcases exists_run_of_any hrun with ⟨log, t, h, hactions, hend⟩
  rcases of_decide_eq_true hend with
    ⟨hready, hnobody, hactive, hloans, hlive, hopen, herrors⟩
  have halone : forall x, x ∈ t.parties -> x.isUnderway = false := by
    intro x hx
    simpa using List.all_eq_true.mp hnobody x hx
  have hconfig : t.pool.config = pairConfig := h.config_eq (settled_ofConfig pairConfig)
  rcases (Run.healthCheck hsettings h hready halone hactive prompt_swiftBackend
    (j := ⟨t.now, []⟩) rfl).1 with ⟨k, q, healthy, hdrives, _, hchecked⟩
  rcases hchecked.served hopen with ⟨htotal, hverdict⟩
  rw [h.errorTimes_eq_nil herrors] at hverdict
  have hhealthy : healthy = true := hverdict.mpr (Nat.zero_le _)
  subst hhealthy
  refine ⟨hsettings, log, t, h, hactions, hready, halone, hactive, hloans, hlive,
    prompt_swiftBackend, k, q, hdrives, ?_⟩
  rw [htotal, hloans, hlive, hconfig]
  decide

/-- A request to shut the pool down is dropped while it closes the idle connection, and the pool is
set up again. -/
def reopened : List Action :=
  [.call .warmUp, .reply 0 (.created (.ok ⟨0⟩)), .reply 0 (.created (.ok ⟨1⟩)), .call .shutDown,
    .retire 0, .reply 0 .stirred, .drop 0, .call .warmUp, .reply 0 (.created (.ok ⟨2⟩)),
    .reply 0 (.created (.ok ⟨3⟩))]

/-- The pool is ready and no error ever happened, and yet its health check goes badly. -/
theorem healthCheck_of_reopened :
    pairConfig.fault? = none ∧ swiftBackend.Prompt ∧
      exists log t, Run (ofConfig pairConfig) log t ∧ log.map (fun e => e.2) = reopened ∧
        t.pool.isReady = true ∧ (forall x, x ∈ t.parties -> x.isUnderway = false) ∧
        t.pool.stats.active = t.loanCount ∧ errorTimes log = [] ∧
        exists k q, Checkup.machine.Drives swiftBackend ⟨t.now, []⟩ (Checkup.start t.pool t.now) k
          (q, false) := by
  have hrun : ((ofConfig pairConfig).run reopened).any
      (fun t => t.pool.isReady = true ∧ (t.parties.all fun x => !x.isUnderway) = true ∧
        t.pool.stats.active = t.loanCount ∧ t.pool.slots.closed = true ∧
        t.pool.stats.errors = 0) = true := by
    decide +kernel
  rcases exists_run_of_any hrun with ⟨log, t, h, hactions, hend⟩
  rcases of_decide_eq_true hend with ⟨hready, hnobody, hactive, hclosed, herrors⟩
  have halone : forall x, x ∈ t.parties -> x.isUnderway = false := by
    intro x hx
    simpa using List.all_eq_true.mp hnobody x hx
  have hrest := h.atRest hready halone hactive
  rcases drives_barred prompt_swiftBackend hrest hclosed (j := ⟨t.now, []⟩) rfl with
    ⟨q, k, hdrives, _⟩
  exact ⟨by decide +kernel, prompt_swiftBackend, log, t, h, hactions, hready, halone, hactive,
    h.errorTimes_eq_nil herrors, k, q, hdrives⟩

end Traffic
end PoolHealth
