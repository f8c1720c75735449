import PoolHealth.Proofs.Pool.Onward

/-!
# What checkouts change

A checkout, and a caller that waits for a slot before it, does nothing but the changes
of a pool.  There is one statement for each function: it takes what the call held and
what the backend brought, and gives what the call holds when it waits again.
-/

namespace PoolHealth

open ConnectionPool Token

variable {law : Law} {now : Instant}

namespace Progress

def tokens {σ α : Type} (waiter : σ -> Multiset Token) (answer : α -> Multiset Token) :
    Progress σ α -> Multiset Token
  | waiting s => waiter s
  | done a => answer a

end Progress

def leased : Except PoolError Lease -> Multiset Token
  | .ok l => {.lent l.connection}
  | .error _ => 0

/-!
## Opening a connection
-/

namespace Opening

def gain : Progress Opening (Except PoolError Connection) -> Multiset Token
  | .done (.ok c) => {.raw c .pending}
  | .done (.error _) | .waiting _ => 0

theorem changes_fail (p : ConnectionPool) (attempt : Nat) (e : BackendError) :
    Changes law now p 0 (fail p now attempt e).1 (gain (fail p now attempt e).2) := by
  have herror : Changes law now p 0 (p.recordError now) 0 := Changes.one (Change.error p)
  unfold fail
  by_cases hmore : attempt < attempts (p.recordError now).config
  · rw [if_pos hmore]
    exact herror
  · rw [if_neg hmore]
    exact herror

theorem changes_step {p : ConnectionPool} {o : Opening} {r : Reply}
    (hfits : r.fits (o.await p.config) = true) :
    Changes law now p (raws r.arrivals) (o.step p now r).1 (gain (o.step p now r).2) := by
  cases o with
  | creating attempt =>
      cases r with
      | created result =>
          cases result with
          | ok c =>
              exact Changes.refl p {.raw c .pending}
          | error e =>
              exact changes_fail p attempt e
      | timedOut =>
          exact changes_fail p attempt (.timeout p.config.connectionTimeout)
      | stirred =>
          cases hfits
      | validated ok =>
          cases hfits
      | closed result =>
          cases hfits
  | pausing attempt =>
      cases r with
      | stirred =>
          exact Changes.refl p 0
      | timedOut =>
          cases hfits
      | created result =>
          cases hfits
      | validated ok =>
          cases hfits
      | closed result =>
          cases hfits

theorem changes_beside {p q : ConnectionPool} {o : Opening} {r : Reply}
    {progress : Progress Opening (Except PoolError Connection)}
    (hfits : r.fits (o.await p.config) = true) (hstep : o.step p now r = (q, progress))
    (F : Multiset Token) : Changes law now p (F + raws r.arrivals) q (F + gain progress) := by
  have hopening : Changes law now p (raws r.arrivals) (o.step p now r).1
      (gain (o.step p now r).2) := changes_step hfits
  rw [hstep] at hopening
  exact (hopening.frame F).cast (add_comm _ _) (add_comm _ _)

end Opening

/-!
## Checking a connection out
-/

namespace Checkout

def tokens (k : Checkout) : Multiset Token := k.stake + k.underway

def proceeds : Progress Checkout (Except PoolError Lease) -> Multiset Token :=
  Progress.tokens tokens leased

/-- Whether the checkout opens a connection next although it has not looked at the idle
ones since it closed others. -/
def opensLate : Checkout -> Reply -> Bool
  | closingExpired _ [] none, .closed _ | closingExpired _ [] none, .timedOut => true
  | _, _ => false

/-- What is held besides the expired connections: the candidate or, if there is none, a
slot. -/
def aim : Option IdleConnection -> Multiset Token
  | some e => {.lent e.connection}
  | none => {.slot .stale}

theorem stake_closingExpired (c : Connection) (rest : List Connection)
    (candidate : Option IdleConnection) :
    stake (closingExpired c rest candidate) = aim candidate + doomed rest := by
  cases candidate with
  | none =>
      rfl
  | some e =>
      rfl

theorem changes_closeNext (p : ConnectionPool) (c : Connection) (rest : List Connection)
    (candidate : Option IdleConnection) :
    Changes law now p (aim candidate + doomed (c :: rest)) p
      (tokens (closingExpired c rest candidate)) := by
  refine Changes.framed (Change.hand p c) (aim candidate + doomed rest) ?_ ?_
  · simp only [doomed, each_cons]
    abel
  · simp only [tokens, underway, stake_closingExpired]
    abel

theorem changes_search (p : ConnectionPool) :
    Changes law now p {.slot .bare} (search p now).1 (tokens (search p now).2) := by
  rcases takeIdle_cases p now with
    ⟨expired, e, rest, hidle, hexpired, hlive, htake⟩ | ⟨hexpired, htake⟩
  · have hfound : Changes law now p {.slot .bare} (p.afterPick expired.length rest)
        ({.lent e.connection} + doomed (expired.map (·.connection))) :=
      Changes.one (Change.found hidle hexpired hlive)
    unfold search
    rw [htake]
    cases expired with
    | nil =>
        exact hfound
    | cons x others =>
        exact hfound.trans
          (changes_closeNext _ x.connection (others.map (·.connection)) (some e))
  · unfold search
    rw [htake]
    cases hidle : p.idle with
    | nil =>
        exact Changes.one (Change.openAtOnce hidle)
    | cons x others =>
        have hsome : p.idle ≠ [] := by simp [hidle]
        have hnone : Changes law now p {.slot .bare} p.afterSweep
            ({.slot .stale} + doomed (p.idle.map (·.connection))) :=
          Changes.one (Change.foundNone hsome hexpired)
        rw [hidle] at hnone
        exact hnone.trans (changes_closeNext _ x.connection (others.map (·.connection)) none)

/-- The expired connections are closed, and the checkout turns to its candidate. -/
theorem changes_pursue {p : ConnectionPool} (candidate : Option IdleConnection)
    (hlate : candidate = none -> law.late p) :
    Changes law now p (aim candidate) (pursue p candidate).1 (tokens (pursue p candidate).2) := by
  cases candidate with
  | none =>
      exact Changes.one (Change.openLate (hlate rfl))
  | some e =>
      exact Changes.refl p {.lent e.connection}

theorem changes_accept (p : ConnectionPool) (purpose : CheckoutPurpose) (l : Lease) :
    Changes law now p {.lent l.connection} (accept p purpose l).1
      (proceeds (accept p purpose l).2) := by
  cases purpose with
  | caller =>
      exact Changes.framed (Change.hit p) {.lent l.connection} (zero_add _).symm (zero_add _).symm
  | healthCheck =>
      exact Changes.refl p {.lent l.connection}

theorem changes_reject (p : ConnectionPool) (l : Lease) :
    Changes law now p {.lent l.connection} (reject p now l).1 (proceeds (reject p now l).2) := by
  have hreject : Changes law now p {.lent l.connection} (p.dropActive.recordClosures 1)
      ({.slot .bare} + {.retired l.connection .pending}) :=
    Changes.one (Change.reject p l.connection)
  have herror := hreject.and (Change.error (p.dropActive.recordClosures 1))
    ({.slot .bare} + {.retired l.connection .pending}) (zero_add _).symm
  refine (herror.and (Change.hand _ l.connection) {.slot .bare} ?_).cast rfl ?_
  · abel
  · show tokens (closingInvalid l.connection) = _
    simp only [tokens, stake, underway]
    abel

theorem changes_land (p : ConnectionPool) (r : Except PoolError Connection) :
    Changes law now p ({.slot .opening} + Opening.gain (.done r)) (land p now r).1
      (proceeds (land p now r).2) := by
  cases r with
  | ok c =>
      exact Changes.one (Change.land p c)
  | error e =>
      exact (Changes.one (Change.openFailed p)).cast (add_zero _) rfl

theorem opensLate_of_fits {closing : Connection} {r : Reply}
    (hclosed : r.fits (.close closing) = true) :
    opensLate (closingExpired closing [] none) r = true := by
  cases r with
  | closed result | timedOut =>
      rfl
  | stirred | created result | validated ok =>
      cases hclosed

theorem changes_step {p : ConnectionPool} {purpose : CheckoutPurpose} {k : Checkout} {r : Reply}
    (hfits : r.fits (k.await p.config) = true) (hlate : k.opensLate r = true -> law.late p) :
    Changes law now p (k.stake + raws r.arrivals) (k.step purpose p now r).1
      (proceeds (k.step purpose p now r).2) := by
  have hnothing : forall c, r.fits (.close c) = true -> raws r.arrivals = 0 := by
    intro c hclosed
    rw [Reply.arrivals_of_fits_close hclosed]
    rfl
  have honward := onward purpose p now k r
  generalize k.step purpose p now r = after at honward ⊢
  cases honward with
  | next hclosed =>
      rw [hnothing _ hclosed, add_zero, stake_closingExpired]
      exact changes_closeNext p _ _ _
  | @pursue closing candidate _ hclosed =>
      rw [hnothing _ hclosed, add_zero, stake_closingExpired]
      refine (changes_pursue candidate ?_).cast (add_zero _) rfl
      rintro rfl
      exact hlate (opensLate_of_fits hclosed)
  | accept l =>
      exact (changes_accept p purpose l).cast (add_zero _) rfl
  | reject hbad =>
      rcases hbad with rfl | rfl
      · exact (changes_reject p _).cast (add_zero _) rfl
      · exact (changes_reject p _).cast (add_zero _) rfl
  | search hclosed =>
      rw [hnothing _ hclosed, add_zero]
      exact changes_search p
  | again hstep =>
      exact Opening.changes_beside hfits hstep {.slot .opening}
  | land hstep =>
      exact (Opening.changes_beside hfits hstep {.slot .opening}).trans (changes_land _ _)
  | still hunfit =>
      cases hfits.symm.trans hunfit

theorem changes_start (p : ConnectionPool) :
    Changes law now p 0 (start p now).1 (proceeds (start p now).2) := by
  unfold start
  cases hready : p.isReady with
  | false =>
      exact Changes.refl p 0
  | true =>
      cases htake : p.slots.tryTake with
      | taken slots =>
          have hslot : Changes law now p 0 { p with slots := slots } {.slot .bare} :=
            Changes.one (Change.take hready htake)
          exact hslot.trans (changes_search { p with slots := slots })
      | noneFree =>
          exact Changes.refl p 0
      | closed =>
          exact Changes.refl p 0

theorem changes_giveBack (p : ConnectionPool) (l : Lease) :
    Changes law now p {.lent l.connection} (p.giveBack now l true) 0 :=
  Changes.one (Change.giveBack rfl)

theorem changes_lose (hdrops : law.drops) (p : ConnectionPool) (cs : List Connection) :
    Changes law now p (doomed cs) p (lost cs) := by
  induction cs with
  | nil =>
      exact Changes.refl p 0
  | cons c rest ih =>
      have hfirst : Changes law now p (doomed (c :: rest)) p ({.retired c .lost} + doomed rest) :=
        Changes.framed (Change.lose p c hdrops) (doomed rest) rfl rfl
      have hrest := ih.frame {.retired c .lost}
      refine hfirst.trans (hrest.cast (add_comm _ _) ?_)
      simp only [lost, each_cons]
      abel

theorem changes_cancel (hdrops : law.drops) (p : ConnectionPool) (k : Checkout) :
    Changes law now p k.stake (k.cancel p now) k.remains := by
  cases k with
  | closingExpired closing rest candidate =>
      have hrest : Changes law now p.releaseSlot (doomed rest) p.releaseSlot (lost rest) :=
        changes_lose hdrops p.releaseSlot rest
      cases candidate with
      | none =>
          have hsettle : Changes law now p ({.slot .stale} + doomed rest) p
              ({.slot .bare} + doomed rest) :=
            Changes.framed (Change.settle p) (doomed rest) rfl rfl
          have hslot := hsettle.and (Change.handBack p) (doomed rest) rfl
          exact hslot.trans (hrest.cast (zero_add _) rfl)
      | some e =>
          have hslot : Changes law now p ({.lent e.connection} + doomed rest) p.releaseSlot
              ({.forgotten e.connection} + doomed rest) :=
            Changes.framed (Change.forget p e.connection hdrops) (doomed rest) rfl rfl
          have hboth := hrest.frame {.forgotten e.connection}
          exact hslot.trans (hboth.cast (add_comm _ _) (add_comm _ _))
  | validating l =>
      exact changes_giveBack p l
  | closingInvalid c =>
      exact Changes.one (Change.handBack p)
  | opening o =>
      exact Changes.one (Change.openFailed p)

end Checkout

/-!
## Waiting for a slot
-/

namespace Acquire

def tokens (k : Acquire) : Multiset Token := k.stake + k.underway

def proceeds : Progress Acquire (Except PoolError Lease) -> Multiset Token :=
  Progress.tokens tokens leased

theorem changes_proceed (p : ConnectionPool) (started : Instant) :
    Changes law now p {.slot .bare} (proceed p now started).1
      (proceeds (proceed p now started).2) :=
  Checkout.changes_search p

theorem changes_start (p : ConnectionPool) :
    Changes law now p 0 (start p now).1 (proceeds (start p now).2) := by
  unfold start
  cases hready : p.isReady with
  | false =>
      exact Changes.refl p 0
  | true =>
      cases htake : p.slots.tryTake with
      | taken slots =>
          have hslot : Changes law now p 0 { p with slots := slots } {.slot .bare} :=
            Changes.one (Change.take hready htake)
          exact hslot.trans (changes_proceed { p with slots := slots } now)
      | noneFree =>
          exact Changes.one (Change.line hready htake)
      | closed =>
          exact Changes.refl p 0

theorem changes_leave (p : ConnectionPool) (t : Ticket) :
    Changes law now p {.queued} (p.leaveSlotQueue t).dropWaiter 0 :=
  (Changes.one (Change.leaveLine p t)).trans (Changes.one (Change.unline (p.leaveSlotQueue t)))

theorem changes_called {p : ConnectionPool} {t : Ticket}
    (hturn : p.slots.standing t = .promised) (started : Instant) :
    Changes law now p {.queued}
      (proceed (ConnectionPool.dropWaiter { p with slots := p.slots.collect t }) now started).1
      (proceeds (proceed
        (ConnectionPool.dropWaiter { p with slots := p.slots.collect t }) now started).2) := by
  have hcalled : Changes law now p {.queued} { p with slots := p.slots.collect t }
      ({.queued} + {.slot .bare}) := Changes.one (Change.called hturn)
  have hslot := (hcalled.and (Change.unline _) {.slot .bare} rfl).cast rfl (zero_add _).symm
  exact hslot.trans (changes_proceed _ started)

theorem changes_giveUp (p : ConnectionPool) (t : Ticket) :
    Changes law now p {.queued} (giveUp p t).1 (proceeds (giveUp p t).2) := by
  have hleave : Changes law now p {.queued} (p.leaveSlotQueue t) {.queued} :=
    Changes.one (Change.leaveLine p t)
  have hcounted := hleave.and (Change.exhaustion (p.leaveSlotQueue t)) {.queued}
    (zero_add _).symm
  exact hcounted.and (Change.unline _) 0 rfl

theorem changes_step {p : ConnectionPool} {k : Acquire} {r : Reply}
    (hfits : r.fits (k.await p.config) = true)
    (hlate : forall c, k.checkout? = some c -> c.opensLate r = true -> law.late p) :
    Changes law now p (k.stake + raws r.arrivals) (k.step p now r).1
      (proceeds (k.step p now r).2) := by
  have hcheckout : forall started c q progress, k = checkingOut started c ->
      c.step .caller p now r = (q, progress) ->
        Changes law now p (k.stake + raws r.arrivals) q (Checkout.proceeds progress) := by
    rintro started c q progress rfl hstep
    have hchanges : Changes law now p (c.stake + raws r.arrivals) (c.step .caller p now r).1
        (Checkout.proceeds (c.step .caller p now r).2) :=
      Checkout.changes_step hfits (hlate c rfl)
    rw [hstep] at hchanges
    exact hchanges
  have honward := onward p now k r
  generalize k.step p now r = after at honward ⊢
  cases honward with
  | called hturn =>
      exact (changes_called hturn _).cast (add_zero _) rfl
  | turnedAway hclosed =>
      exact (changes_leave p _).cast (add_zero _) rfl
  | patient hwaits =>
      exact Changes.refl p _
  | gaveUp t started =>
      exact (changes_giveUp p t).cast (add_zero _) rfl
  | again hstep =>
      exact hcheckout _ _ _ _ rfl hstep
  | @served _ _ _ _ l hstep =>
      exact ((hcheckout _ _ _ _ rfl hstep).and (Change.wait _ _) {.lent l.connection}
        (zero_add _).symm).cast rfl (zero_add _).symm
  | failed hstep =>
      exact hcheckout _ _ _ _ rfl hstep
  | still hunfit =>
      cases hfits.symm.trans hunfit

theorem changes_cancel (hdrops : law.drops) (p : ConnectionPool) (k : Acquire) :
    Changes law now p k.stake (k.cancel p now) k.remains := by
  cases k with
  | queued t started =>
      exact changes_leave p t
  | checkingOut started c =>
      exact Checkout.changes_cancel hdrops p c

end Acquire
end PoolHealth
