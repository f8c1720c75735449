import PoolHealth.Proofs.Pool.Change
import PoolHealth.Proofs.Pool.Traffic

/-!
# How calls go on

A call that waits is told how its wait has ended, and does something until it waits again or is
over.  For each kind of call the ways in which it may go on are listed here, with what must be
the case for each of them.  Whatever is to be known about all calls is shown way by way.

A reply that does not fit what a call waits for leaves the call where it stands.
-/

namespace PoolHealth

open ConnectionPool

variable {p q : ConnectionPool} {now : Instant} {r : Reply}

namespace Reply

theorem eq_stirred_of_fits_pause {d : Duration} (h : r.fits (.pause d) = true) :
    r = .stirred := by
  cases r with
  | stirred =>
      rfl
  | timedOut | created result | validated ok | closed result =>
      cases h

theorem arrivals_of_fits_close {c : Connection} (h : r.fits (.close c) = true) :
    r.arrivals = [] := by
  cases r with
  | closed result | timedOut =>
      rfl
  | stirred | created result | validated ok =>
      cases h

theorem arrivals_of_fits_lifecycle {t : Ticket} (h : r.fits (.lifecycle t) = true) :
    r.arrivals = [] := by
  cases r with
  | stirred =>
      rfl
  | timedOut | created result | validated ok | closed result =>
      cases h

end Reply

namespace Opening

theorem pool_step (p : ConnectionPool) (o : Opening) (r : Reply) :
    (o.step p now r).1 = p ∨ (o.step p now r).1 = p.recordError now := by
  have hfail : forall attempt e, (fail p now attempt e).1 = p.recordError now := by
    intro attempt e
    simp only [fail]
    split
    · rfl
    · rfl
  unfold step
  split
  · exact Or.inl rfl
  · exact Or.inr (hfail _ _)
  · exact Or.inr (hfail _ _)
  · exact Or.inl rfl
  · exact Or.inl rfl

section Step

variable {o : Opening} {progress : Progress Opening (Except PoolError Connection)}
  (hstep : o.step p now r = (q, progress))

include hstep

theorem pool_of_step : q = p ∨ q = p.recordError now := by
  have hpool : (o.step p now r).1 = p ∨ (o.step p now r).1 = p.recordError now :=
    pool_step p o r
  rw [hstep] at hpool
  exact hpool

theorem config_eq_of_step : q.config = p.config := by
  rcases pool_of_step hstep with rfl | rfl
  · rfl
  · rfl

theorem phase_eq_of_step : q.phase = p.phase := by
  rcases pool_of_step hstep with rfl | rfl
  · rfl
  · rfl

end Step

theorem cases_of_done {o : Opening} {result : Except PoolError Connection}
    (h : (o.step p now r).2 = .done result) :
    (exists c, result = .ok c ∧ r = .created (.ok c)) ∨
      exists name source, result = .error (.backend name source) := by
  have hfail : forall attempt e, (fail p now attempt e).2 = .done result ->
      exists name source, result = .error (.backend name source) := by
    intro attempt e hdone
    simp only [fail] at hdone
    split at hdone
    · cases hdone
    · cases hdone
      exact ⟨_, _, rfl⟩
  unfold step at h
  split at h
  · cases h
    exact Or.inl ⟨_, rfl, rfl⟩
  · exact Or.inr (hfail _ _ h)
  · exact Or.inr (hfail _ _ h)
  · cases h
  · cases h

end Opening

/-!
## Checking a connection out
-/

namespace ConnectionPool

/-- An idle connection is taken behind expired ones, or all of them were expired. -/
theorem takeIdle_cases (p : ConnectionPool) (now : Instant) :
    (exists expired e rest,
      p.idle = expired ++ e :: rest ∧
        (forall x, x ∈ expired -> isExpired p.config now x = true) ∧
        isExpired p.config now e = false ∧
        p.takeIdle now =
          (p.afterPick expired.length rest, some e, expired.map (·.connection))) ∨
      (forall x, x ∈ p.idle -> isExpired p.config now x = true) ∧
        p.takeIdle now = (p.afterSweep, none, p.idle.map (·.connection)) := by
  have hsplit := expiredInFront_append_fromFirstLive p.config now p.idle
  cases hlive : fromFirstLive p.config now p.idle with
  | nil =>
      right
      rw [hlive, List.append_nil] at hsplit
      constructor
      · intro x hx
        rw [← hsplit] at hx
        exact isExpired_of_mem_expiredInFront hx
      · unfold takeIdle
        rw [hlive, hsplit]
        rfl
  | cons e rest =>
      left
      refine ⟨expiredInFront p.config now p.idle, e, rest, ?_, ?_, ?_, ?_⟩
      · rw [← hlive]
        exact hsplit.symm
      · intro x hx
        exact isExpired_of_mem_expiredInFront hx
      · exact isExpired_of_fromFirstLive_eq_cons hlive
      · unfold takeIdle
        rw [hlive]
        rfl

theorem dropPending_addPending (p : ConnectionPool) : p.addPending.dropPending = p := by
  have hshort : p.audit.lower (p.pending + 1) 1 = p.audit := by
    have hzero : 1 - (p.pending + 1) = 0 := by omega
    unfold Audit.lower
    rw [hzero, Nat.add_zero]
  show { p with pending := p.pending + 1 - 1, audit := p.audit.lower (p.pending + 1) 1 } = p
  rw [hshort, Nat.add_sub_cancel]

theorem reserveRefill?_eq_some (h : p.reserveRefill? = some q) :
    p.stats.total + p.pending < p.config.minSize.toNat ∧
      p.stats.total + p.pending < p.config.maxSize.toNat ∧ q = p.addPending := by
  unfold reserveRefill? at h
  by_cases hfull : p.config.minSize.toNat ≤ p.stats.total + p.pending ∨
      p.config.maxSize.toNat ≤ p.stats.total + p.pending
  · rw [if_pos hfull] at h
    cases h
  · rw [if_neg hfull] at h
    cases h
    rcases not_or.mp hfull with ⟨hmin, hmax⟩
    exact ⟨Nat.lt_of_not_le hmin, Nat.lt_of_not_le hmax, rfl⟩

end ConnectionPool

namespace Checkout

inductive Onward (purpose : CheckoutPurpose) (p : ConnectionPool) (now : Instant) :
    Checkout -> Reply -> ConnectionPool × Progress Checkout (Except PoolError Lease) -> Prop where
  | next {closing c : Connection} {rest : List Connection} {candidate : Option IdleConnection}
      {r : Reply} (hclosed : r.fits (.close closing) = true) :
      Onward purpose p now (closingExpired closing (c :: rest) candidate) r
        (p, .waiting (closingExpired c rest candidate))
  | pursue {closing : Connection} {candidate : Option IdleConnection} {r : Reply}
      (hclosed : r.fits (.close closing) = true) :
      Onward purpose p now (closingExpired closing [] candidate) r
        ((pursue p candidate).1, .waiting (pursue p candidate).2)
  | accept (l : Lease) :
      Onward purpose p now (validating l) (.validated true) (accept p purpose l)
  | reject {l : Lease} {r : Reply} (hbad : r = .validated false ∨ r = .timedOut) :
      Onward purpose p now (validating l) r (reject p now l)
  | search {c : Connection} {r : Reply} (hclosed : r.fits (.close c) = true) :
      Onward purpose p now (closingInvalid c) r
        ((search p now).1, .waiting (search p now).2)
  | again {o o' : Opening} {r : Reply} {q : ConnectionPool}
      (hstep : o.step p now r = (q, .waiting o')) :
      Onward purpose p now (opening o) r (q, .waiting (opening o'))
  | land {o : Opening} {r : Reply} {q : ConnectionPool} {result : Except PoolError Connection}
      (hstep : o.step p now r = (q, .done result)) :
      Onward purpose p now (opening o) r (land q now result)
  | still {k : Checkout} {r : Reply} (hunfit : r.fits (k.await p.config) = false) :
      Onward purpose p now k r (p, .waiting k)

theorem onward (purpose : CheckoutPurpose) (p : ConnectionPool) (now : Instant) (k : Checkout)
    (r : Reply) : Onward purpose p now k r (k.step purpose p now r) := by
  cases k with
  | closingExpired closing rest candidate =>
      cases r with
      | closed result | timedOut =>
          cases rest with
          | nil =>
              exact .pursue rfl
          | cons c rest =>
              exact .next rfl
      | stirred | created result | validated ok =>
          cases rest with
          | nil | cons c rest =>
              exact .still rfl
  | validating l =>
      cases r with
      | validated ok =>
          cases ok with
          | true =>
              exact .accept l
          | false =>
              exact .reject (Or.inl rfl)
      | timedOut =>
          exact .reject (Or.inr rfl)
      | stirred | created result | closed result =>
          exact .still rfl
  | closingInvalid c =>
      cases r with
      | closed result | timedOut =>
          exact .search rfl
      | stirred | created result | validated ok =>
          exact .still rfl
  | opening o =>
      simp only [step]
      split
      · rename_i hstep
        exact .again hstep
      · rename_i hstep
        exact .land hstep

end Checkout

namespace Acquire

inductive Onward (p : ConnectionPool) (now : Instant) :
    Acquire -> Reply -> ConnectionPool × Progress Acquire (Except PoolError Lease) -> Prop where
  | called {t : Ticket} {started : Instant} (hturn : p.slots.standing t = .promised) :
      Onward p now (queued t started) .stirred
        (proceed (ConnectionPool.dropWaiter { p with slots := p.slots.collect t }) now started)
  | turnedAway {t : Ticket} {started : Instant} (hclosed : p.slots.standing t = .closed) :
      Onward p now (queued t started) .stirred
        ((p.leaveSlotQueue t).dropWaiter, .done (.error p.notInitialized))
  | patient {t : Ticket} {started : Instant} (hwaits : p.slots.standing t = .waiting) :
      Onward p now (queued t started) .stirred (p, .waiting (queued t started))
  | gaveUp (t : Ticket) (started : Instant) :
      Onward p now (queued t started) .timedOut (giveUp p t)
  | again {started : Instant} {k k' : Checkout} {r : Reply} {q : ConnectionPool}
      (hstep : k.step .caller p now r = (q, .waiting k')) :
      Onward p now (checkingOut started k) r (q, .waiting (checkingOut started k'))
  | served {started : Instant} {k : Checkout} {r : Reply} {q : ConnectionPool} {l : Lease}
      (hstep : k.step .caller p now r = (q, .done (.ok l))) :
      Onward p now (checkingOut started k) r (q.recordWait (now.since started), .done (.ok l))
  | failed {started : Instant} {k : Checkout} {r : Reply} {q : ConnectionPool} {e : PoolError}
      (hstep : k.step .caller p now r = (q, .done (.error e))) :
      Onward p now (checkingOut started k) r (q, .done (.error e))
  | still {t : Ticket} {started : Instant} {r : Reply} (hunfit : r.fits (.slot t) = false) :
      Onward p now (queued t started) r (p, .waiting (queued t started))

theorem onward (p : ConnectionPool) (now : Instant) (k : Acquire) (r : Reply) :
    Onward p now k r (k.step p now r) := by
  cases k with
  | queued t started =>
      cases r with
      | stirred =>
          simp only [step, look]
          split
          · rename_i hturn
            exact .called hturn
          · rename_i hclosed
            exact .turnedAway hclosed
          · rename_i hwaits
            exact .patient hwaits
      | timedOut =>
          exact .gaveUp t started
      | created result | validated ok | closed result =>
          exact .still rfl
  | checkingOut started k =>
      simp only [step]
      split
      · rename_i hstep
        exact .again hstep
      · rename_i hstep
        exact .served hstep
      · rename_i hstep
        exact .failed hstep

end Acquire

/-!
## Health checks
-/

namespace Checkup

inductive Onward (p : ConnectionPool) (now : Instant) :
    Checkup -> Reply -> ConnectionPool × Progress Checkup Bool -> Prop where
  | next {closing c : Connection} {rest : List Connection} {r : Reply}
      (hclosed : r.fits (.close closing) = true) :
      Onward p now (evicting closing (c :: rest)) r (p, .waiting (evicting c rest))
  | refill {closing : Connection} {r : Reply} (hclosed : r.fits (.close closing) = true) :
      Onward p now (evicting closing []) r (refill p now)
  | openAgain {o o' : Opening} {r : Reply} {q : ConnectionPool}
      (hstep : o.step p now r = (q, .waiting o')) :
      Onward p now (refilling o) r (q, .waiting (refilling o'))
  | opened {o : Opening} {r : Reply} {q : ConnectionPool} {result : Except PoolError Connection}
      (hstep : o.step p now r = (q, .done result)) :
      Onward p now (refilling o) r (settleRefill q now result)
  | probeAgain {k k' : Checkout} {r : Reply} {q : ConnectionPool}
      (hstep : k.step .healthCheck p now r = (q, .waiting k')) :
      Onward p now (probing k) r (q, .waiting (probing k'))
  | probed {k : Checkout} {r : Reply} {q : ConnectionPool} {result : Except PoolError Lease}
      (hstep : k.step .healthCheck p now r = (q, .done result)) :
      Onward p now (probing k) r (settleProbe q now result)
  | still {closing : Connection} {rest : List Connection} {r : Reply}
      (hunfit : r.fits (.close closing) = false) :
      Onward p now (evicting closing rest) r (p, .waiting (evicting closing rest))

theorem onward (p : ConnectionPool) (now : Instant) (k : Checkup) (r : Reply) :
    Onward p now k r (k.step p now r) := by
  cases k with
  | evicting closing rest =>
      cases r with
      | closed result | timedOut =>
          cases rest with
          | nil =>
              exact .refill rfl
          | cons c rest =>
              exact .next rfl
      | stirred | created result | validated ok =>
          cases rest with
          | nil | cons c rest =>
              exact .still rfl
  | refilling o =>
      simp only [step]
      split
      · rename_i hstep
        exact .openAgain hstep
      · rename_i hstep
        exact .opened hstep
  | probing k =>
      simp only [step]
      split
      · rename_i hstep
        exact .probeAgain hstep
      · rename_i hstep
        exact .probed hstep

end Checkup

/-!
## Setting up and shutting down
-/

namespace WarmUp

inductive Onward (p : ConnectionPool) (now : Instant) :
    WarmUp -> Reply -> ConnectionPool × Progress WarmUp (Except PoolError Unit) -> Prop where
  | called {t : Ticket} {r : Reply} (hturn : p.lifecycle.standing t = .promised) :
      Onward p now (queued t) r (enter { p with lifecycle := p.lifecycle.collect t } now)
  | patient {t : Ticket} {r : Reply} (hwaits : p.lifecycle.standing t ≠ .promised) :
      Onward p now (queued t) r (p, .waiting (queued t))
  | again {opened : List Connection} {o o' : Opening} {r : Reply} {q : ConnectionPool}
      (hstep : o.step p now r = (q, .waiting o')) :
      Onward p now (opening opened o) r (q, .waiting (opening opened o'))
  | another {opened : List Connection} {o : Opening} {r : Reply} {q : ConnectionPool}
      {c : Connection} (hstep : o.step p now r = (q, .done (.ok c))) :
      Onward p now (opening opened o) r (goOn q now (opened ++ [c]))
  | failed {opened : List Connection} {o : Opening} {r : Reply} {q : ConnectionPool}
      {e : PoolError} (hstep : o.step p now r = (q, .done (.error e))) :
      Onward p now (opening opened o) r (rollBack q e opened)
  | rollBack {c : Connection} {rest : List Connection} {e : PoolError} {r : Reply}
      (hclosed : r.fits (.close c) = true) :
      Onward p now (rollingBack c rest e) r (rollBack p e rest)
  | still {c : Connection} {rest : List Connection} {e : PoolError} {r : Reply}
      (hunfit : r.fits (.close c) = false) :
      Onward p now (rollingBack c rest e) r (p, .waiting (rollingBack c rest e))

theorem onward (p : ConnectionPool) (now : Instant) (k : WarmUp) (r : Reply) :
    Onward p now k r (k.step p now r) := by
  cases k with
  | queued t =>
      simp only [step]
      split
      · rename_i hturn
        exact .called hturn
      · rename_i hwaits
        exact .patient hwaits
  | opening opened o =>
      simp only [step]
      split
      · rename_i hstep
        exact .again hstep
      · rename_i hstep
        exact .another hstep
      · rename_i hstep
        exact .failed hstep
  | rollingBack c rest e =>
      cases r with
      | closed result | timedOut =>
          exact .rollBack rfl
      | stirred | created result | validated ok =>
          exact .still rfl

end WarmUp

namespace ShutDown

inductive Onward (p : ConnectionPool) :
    ShutDown -> Reply -> ConnectionPool × Progress ShutDown (Except PoolError Unit) -> Prop where
  | called {t : Ticket} {r : Reply} (hturn : p.lifecycle.standing t = .promised) :
      Onward p (queued t) r (enter { p with lifecycle := p.lifecycle.collect t })
  | patient {t : Ticket} {r : Reply} (hwaits : p.lifecycle.standing t ≠ .promised) :
      Onward p (queued t) r (p, .waiting (queued t))
  | drain (r : Reply) : Onward p awaitingMaintenance r (drain p)
  | closed (c : Connection) (rest : List Connection) (failure : Option BackendError) :
      Onward p (closing c rest failure) (.closed (.ok ())) (closeNext p failure rest)
  | failed (c : Connection) (rest : List Connection) (failure : Option BackendError)
      (e : BackendError) :
      Onward p (closing c rest failure) (.closed (.error e)) (closeNext p (some e) rest)
  | timedOut (c : Connection) (rest : List Connection) (failure : Option BackendError) :
      Onward p (closing c rest failure) .timedOut
        (closeNext p (some (.timeout p.config.validationTimeout)) rest)
  | still {c : Connection} {rest : List Connection} {failure : Option BackendError} {r : Reply}
      (hunfit : r.fits (.close c) = false) :
      Onward p (closing c rest failure) r (p, .waiting (closing c rest failure))

theorem onward (p : ConnectionPool) (k : ShutDown) (r : Reply) :
    Onward p k r (k.step p r) := by
  cases k with
  | queued t =>
      simp only [step]
      split
      · rename_i hturn
        exact .called hturn
      · rename_i hwaits
        exact .patient hwaits
  | awaitingMaintenance =>
      exact .drain r
  | closing c rest failure =>
      cases r with
      | closed result =>
          cases result with
          | ok _ =>
              exact .closed c rest failure
          | error e =>
              exact .failed c rest failure e
      | timedOut =>
          exact .timedOut c rest failure
      | stirred | created result | validated ok =>
          exact .still rfl

end ShutDown
end PoolHealth
