import PoolHealth.Proofs.Pool.Places
import PoolHealth.Proofs.Pool.Roles

/-!
# Every connection has one owner

A connection is discarded if it is found expired, if its probe goes badly, or if it comes
back when it cannot be lent again.  It counts as closed from then on, whatever happens
later, and therefore it is never idle and never lent again.
-/

namespace PoolHealth

open ConnectionPool Token

variable {law : Law} {now : Instant} {p q : ConnectionPool} {A B F : Multiset Token}
variable {d : Connection}

/-!
## Connections that count as closed
-/

namespace Token

@[simp] def gone (c : Connection) : Token -> Nat
  | retired d _ => if d = c then 1 else 0
  | queued | slot _ | lent _ | forgotten _ | raw _ _ | lock _ | checking => 0

end Token

def Gone (d : Connection) (p : ConnectionPool) (held : Multiset Token) : Prop :=
  0 < tally (gone d) held + p.dues.count d

namespace Gone

theorem of_tally_pos (h : 0 < tally (gone d) A) : Gone d p A := Nat.lt_add_right _ h

theorem of_mem_dues (h : d ∈ p.dues) : Gone d p A :=
  Nat.lt_add_left _ (List.count_pos_iff.mpr h)

end Gone

/-- A connection that counts as closed does so after every change. -/
theorem Change.gone_le (h : Change law now p A q B) (d : Connection) :
    tally (gone d) A + p.dues.count d ≤ tally (gone d) B + q.dues.count d := by
  cases h with
  | handBack | forget | openFailed | refillFailed | landIdle =>
      rw [releaseSlot_eq]
      simp [dues, recordCreation, pushIdle, dropPending]
  | giveBack | strand =>
      rw [giveBack_eq]
      simp [dues]
  | leaveLine | leaveLockLine | unlock | abandonLock =>
      simp [dues, leaveSlotQueue_eq, leaveLockQueue_eq, releaseLock_eq]
  | found | foundNone | openAtOnce | evict | drain =>
      simp [-List.map_map, dues, takeExpired_eq, takeAllIdle, closeSlots, afterPick, afterSweep,
        addActive, addPending, recordClosures, dropIdle]
  | warmed =>
      rw [WarmUp.furnish_eq]
      simp [dues]
  | _ =>
      simp [dues, addWaiter, dropWaiter, addActive, dropActive, addPending, dropPending,
        recordCreation, recordClosures, recordHit, recordError, recordExhaustion, recordWait,
        Checkup.report, emit, setPhase, closeSlots]

theorem Change.gone (F : Multiset Token) (h : Change law now p A q B) (hp : Gone d p (A + F)) :
    Gone d q (B + F) := by
  have hle := h.gone_le d
  unfold Gone at hp ⊢
  rw [tally_add] at hp ⊢
  omega

/-- An expired connection stays idle or counts as closed. -/
theorem Change.expired_cases (h : Change law now p A q B) {e : IdleConnection} (he : e ∈ p.idle)
    (hexpired : isExpired p.config now e = true) :
    e ∈ q.idle ∨ 0 < tally (Token.gone e.connection) B := by
  have hdoomed : forall es : List IdleConnection, e ∈ es ->
      0 < tally (Token.gone e.connection) (doomed (es.map (·.connection))) := by
    intro es hmem
    simp only [tally_doomed, Token.gone, sum_map_ite_eq_count]
    exact List.count_pos_iff.mpr (List.mem_map_of_mem hmem)
  -- Only a search, an eviction and a drain take anything from the idle connections.
  cases h with
  | found hsplit hothers hlive =>
      rename_i expired rest f
      rw [hsplit] at he
      rcases List.mem_append.mp he with hfront | hback
      · right
        rw [tally_add]
        exact Nat.lt_add_left _ (hdoomed expired hfront)
      · rcases List.mem_cons.mp hback with rfl | hrest
        · rw [hlive] at hexpired
          cases hexpired
        · exact Or.inl hrest
  | foundNone =>
      right
      rw [tally_add]
      exact Nat.lt_add_left _ (hdoomed p.idle he)
  | openAtOnce hnone =>
      rw [hnone] at he
      cases he
  | evict =>
      right
      rw [takeExpired_eq, tally_add]
      exact Nat.lt_add_left _ (hdoomed _ (List.mem_filter.mpr ⟨he, hexpired⟩))
  | drain =>
      right
      rw [tally_add]
      exact Nat.lt_add_left _ (hdoomed p.idle he)
  | handBack | forget | openFailed | refillFailed | landIdle =>
      left
      rw [releaseSlot_eq]
      simp [recordCreation, pushIdle, dropPending, he]
  | giveBack | strand =>
      left
      rw [giveBack_eq]
      exact List.mem_append_left _ he
  | warmed =>
      left
      rw [WarmUp.furnish_eq]
      exact List.mem_append_left _ he
  | leaveLine | leaveLockLine | unlock | abandonLock =>
      left
      simp [leaveSlotQueue_eq, leaveLockQueue_eq, releaseLock_eq, he]
  | _ =>
      left
      exact he

namespace Changes

theorem gone (h : Changes law now p A q B) (hp : Gone d p A) : Gone d q B :=
  h.invariant Change.gone hp

theorem expired_cases (h : Changes law now p A q B) {e : IdleConnection} (he : e ∈ p.idle)
    (hexpired : isExpired p.config now e = true) : e ∈ q.idle ∨ Gone e.connection q B := by
  induction h with
  | refl =>
      exact Or.inl he
  | step F hfirst hrest ih =>
      rcases hfirst.expired_cases he hexpired with hidle | hgone
      · apply ih hidle
        rw [hfirst.config_eq]
        exact hexpired
      · right
        apply hrest.gone
        apply Gone.of_tally_pos
        rw [tally_add]
        exact Nat.lt_add_right _ hgone

end Changes

/-!
## How a connection is discarded
-/

namespace Checkout

def probed? : Checkout -> Option Lease
  | validating l => some l
  | closingExpired _ _ _ | closingInvalid _ | opening _ => none

def served? (now : Instant) : Checkout -> Reply -> Option Lease
  | validating l, .validated true => some l
  | opening (.creating _), .created (.ok c) => some { connection := c, createdAt := now }
  | _, _ => none

theorem step_of_served {k : Checkout} {r : Reply} {l : Lease} (h : k.served? now r = some l)
    (p : ConnectionPool) :
    exists q, k.step .healthCheck p now r = (q, .done (.ok l)) ∧ q.config = p.config ∧
      q.phase = p.phase := by
  unfold served? at h
  split at h
  · cases h
    exact ⟨p, rfl, rfl, rfl⟩
  · cases h
    exact ⟨p.recordCreation.addActive.dropPending, rfl, rfl, rfl⟩
  · cases h

end Checkout

theorem ConnectionPool.mem_dues_giveBack {l : Lease} (h : p.isReusable now l = false) :
    l.connection ∈ (p.giveBack now l true).dues := by
  rw [giveBack_eq, h]
  simp [dues, PoolEvent.dues]

theorem Checkup.mem_dues_step {k : Checkup} {j : Checkout} {r : Reply} {l : Lease}
    (hk : k.checkout? = some j) (hserved : j.served? now r = some l)
    (hkept : p.isReusable now l = false) : l.connection ∈ (k.step p now r).1.dues := by
  cases k with
  | evicting c rest | refilling o =>
      cases hk
  | probing k =>
      cases hk
      rcases Checkout.step_of_served hserved p with ⟨q, hstep, hconfig, hphase⟩
      have hkept' : q.isReusable now l = false := by
        rw [← hkept]
        unfold isReusable isReady
        rw [hconfig, hphase]
      have hdue := mem_dues_giveBack hkept'
      simp only [Checkup.step, hstep, settleProbe, conclude, report, dues, emit,
        List.flatMap_append]
      exact List.mem_append_left _ hdue

namespace Party

def probe? : Party -> Option Checkout
  | caller (.checkup k) | maintainer _ (.checking _ k) => k.checkout?
  | caller (.acquire _) | caller (.tryAcquire _) | caller (.warmUp _) | caller (.shutDown _)
  | maintainer _ (.resting _) | borrower _ | closer _ | finisher _ => none

end Party

namespace Traffic

variable {s t u : Traffic} {a : Action} {log : Log} {c : PoolConfig}

/-- The lease that ends with an action: a borrower gives it back, or somebody is dropped
who probes the connection, or a health check is done with it. -/
def released? (s : Traffic) : Action -> Option Lease
  | .giveBack i _ => s.parties[i]?.bind Party.lease?
  | .drop i => (s.parties[i]?.bind Party.checkout?).bind Checkout.probed?
  | .reply i r => (s.parties[i]?.bind Party.probe?).bind fun k => k.served? s.now r
  | .elapse _ | .call _ | .markBroken _ | .retire _ => none

/-- With the action the connection turns out to be one that must not be lent again. -/
inductive Discards (s : Traffic) : Action -> Connection -> Prop where
  | expired {a : Action} {t : Traffic} {e : IdleConnection} (hidle : e ∈ s.pool.idle)
      (hexpired : isExpired s.pool.config s.now e = true) (hstep : s.step a = some t)
      (htaken : e ∉ t.pool.idle) : Discards s a e.connection
  /-- The probe of a connection fails, or it takes too long. -/
  | invalid {i : Nat} {x : Party} {r : Reply} {l : Lease} (hx : s.parties[i]? = some x)
      (hprobed : x.checkout? = some (.validating l)) (hr : r = .validated false ∨ r = .timedOut) :
      Discards s (.reply i r) l.connection
  | broken {a : Action} {l : Lease} (hreleased : s.released? a = some l)
      (hbroken : l.broken = true) : Discards s a l.connection
  | outlived {a : Action} {l : Lease} (hreleased : s.released? a = some l)
      (hage : s.pool.config.maxLifetime.nanos ≤ s.now.nanosSince l.createdAt) :
      Discards s a l.connection
  | notReady {a : Action} {l : Lease} (hreleased : s.released? a = some l)
      (hphase : s.pool.phase ≠ .ready) : Discards s a l.connection

theorem gone_adopt {p : ConnectionPool} (h : Gone d p s.held) :
    Gone d (s.adopt p).pool (s.adopt p).held := by
  have hnote : Changes .any s.now p s.held (s.adopt p).pool (s.adopt p).held :=
    changes_adopt (Changes.refl p s.held)
  exact hnote.gone h

theorem proceed_of_probe {x : Party} {r : Reply} {k : Checkout} {l : Lease} {xs : List Party}
    (hx : x.probe? = some k) (hserved : k.served? s.now r = some l)
    (hkept : s.pool.isReusable s.now l = false) (h : s.proceed r x = some (p, xs)) :
    l.connection ∈ p.dues := by
  rcases proceed_cases h with
    ⟨call, rfl, _, rfl, _⟩ | ⟨n, m, rfl, _, _, rfl, _⟩ | ⟨c, rfl, _⟩ | ⟨c, rfl, _⟩
  · cases call with
    | checkup j =>
        rw [PoolCall.step, PoolCall.pool_wrap]
        exact Checkup.mem_dues_step hx hserved hkept
    | acquire j | tryAcquire j | warmUp j | shutDown j =>
        cases hx
  · cases m with
    | resting due =>
        cases hx
    | checking due j =>
        rw [Maintenance.step, Maintenance.pool_settle]
        exact Checkup.mem_dues_step hx hserved hkept
  · cases hx
  · cases hx

theorem gone_of_released {l : Lease} (hreleased : s.released? a = some l)
    (hkept : s.pool.isReusable s.now l = false) (h : s.step a = some t) :
    Gone l.connection t.pool t.held := by
  rcases step_cases h with
    ⟨e, rfl, rfl⟩ | ⟨request, rfl, rfl⟩ | ⟨i, r, x, p, xs, rfl, hx, hproceed, rfl⟩ |
    ⟨i, x, p, rfl, hx, habandon, rfl⟩ | ⟨i, background, l, rfl, hx, rfl⟩ | ⟨i, l, rfl, hx, rfl⟩ |
    ⟨i, n, due, rfl, hx, htold, rfl⟩
  · cases hreleased
  · cases hreleased
  · apply gone_adopt
    apply Gone.of_mem_dues
    rcases Option.bind_eq_some_iff.mp hreleased with ⟨k, hk, hserved⟩
    rw [hx] at hk
    exact proceed_of_probe hk hserved hkept hproceed
  · apply gone_adopt
    apply Gone.of_mem_dues
    rcases Option.bind_eq_some_iff.mp hreleased with ⟨k, hk, hprobed⟩
    rw [hx] at hk
    cases k with
    | validating m =>
        cases hprobed
        rw [abandon_of_checkout hk habandon]
        exact mem_dues_giveBack hkept
    | closingExpired e rest candidate | closingInvalid e | opening o =>
        cases hprobed
  · apply gone_adopt
    simp only [released?, hx, Option.bind_some, Party.lease?] at hreleased
    cases hreleased
    cases background with
    | true =>
        exact Gone.of_mem_dues (mem_dues_giveBack hkept)
    | false =>
        apply Gone.of_tally_pos
        rw [held_eq, tally_add, tally_add, stranded, hkept]
        simp only [Bool.or_self, Bool.false_eq_true, if_false, if_true, tally_singleton,
          Token.gone]
        omega
  · cases hreleased
  · cases hreleased

/-- A discarded connection counts as closed. -/
theorem Discards.gone (hdiscards : s.Discards a d) (hsettled : s.Settled)
    (h : s.step a = some t) : Gone d t.pool t.held := by
  cases hdiscards with
  | @expired _ t' e hidle hexpired hstep htaken =>
      rw [h] at hstep
      cases hstep
      have hchanges : Changes .any s.now s.pool (s.held + raws a.arrivals) t.pool t.held :=
        changes_step hsettled (fun _ => trivial) (fun _ _ => trivial) h
      rcases hchanges.expired_cases hidle hexpired with hstays | hgone
      · contradiction
      · exact hgone
  | @invalid i x r l hx hprobed hr =>
      rcases Option.bind_eq_some_iff.mp h with ⟨y, hy, hrest⟩
      rcases Option.bind_eq_some_iff.mp hrest with ⟨⟨p, xs⟩, hproceed, hreturn⟩
      rw [hx] at hy
      cases hy
      cases hreturn
      have hrejected : forall purpose, Checkout.step purpose s.pool s.now (.validating l) r
          = Checkout.reject s.pool s.now l := by
        intro purpose
        rcases hr with rfl | rfl
        · rfl
        · rfl
      rcases proceed_of_checkout hprobed hrejected hproceed with ⟨rfl, y, rfl, hy⟩
      apply gone_adopt
      apply Gone.of_tally_pos
      have hbehind := (Party.tokens_of_checkout hy).2.1
      rcases exists_held_eq hx with ⟨F, _, hreplace⟩
      rw [held_eq, stock_replace_add (hreplace [y])]
      simp only [Party.stock_cons, Party.tokens, hbehind, Checkout.underway, tally_add,
        tally_singleton, Token.gone, if_true]
      omega
  | broken hreleased hbroken =>
      apply gone_of_released hreleased _ h
      simp [isReusable, hbroken]
  | outlived hreleased hage =>
      apply gone_of_released hreleased _ h
      simp [isReusable, Nat.not_lt.mpr hage]
  | notReady hreleased hphase =>
      apply gone_of_released hreleased _ h
      simp [isReusable, isReady, hphase]

theorem Run.gone (h : Run s log t) (hsettled : s.Settled) (hs : Gone d s.pool s.held) :
    Gone d t.pool t.held := by
  refine h.keeps .any Change.gone ?_ (fun e _ => admits_any e) hsettled hs
  intro p A cs hp
  unfold Gone at hp ⊢
  rw [tally_add]
  omega

theorem Run.gone_of_discards (h : Run (ofConfig c) log t) {e : Traffic × Action} (he : e ∈ log)
    (hdiscards : e.1.Discards e.2 d) : Gone d t.pool t.held := by
  rcases h.split he with ⟨before, later, u, _, hbefore, hstep, hlater⟩
  have hsettled := hbefore.settled (settled_ofConfig c)
  exact hlater.gone (settled_step hsettled hstep) (hdiscards.gone hsettled hstep)

end Traffic

/-!
## What counts as closed is not lent
-/

namespace Token

@[simp] def lends (c : Connection) : Token -> Nat
  | lent d => if d = c then 1 else 0
  | forgotten _ | retired _ _ | raw _ _ | queued | slot _ | lock _ | checking => 0

theorem tally_lends_add_gone_le (held : Multiset Token) :
    tally (lends d) held + tally (gone d) held ≤ tally (names d) held := by
  rw [← tally_add_weights]
  apply tally_le_of_le
  intro t
  cases t with
  | queued | slot u | lent e | forgotten e | retired e f | raw e f | lock u | checking =>
      simp

end Token

theorem Checkout.count_connection_le (k : Checkout) :
    k.connection?.toList.count d ≤ tally (lends d) k.stake := by
  cases k with
  | closingExpired c rest candidate =>
      cases candidate with
      | none | some e =>
          simp [connection?, stake, List.count_singleton]
  | validating l =>
      simp [connection?, stake, List.count_singleton]
  | closingInvalid c | opening o =>
      exact Nat.zero_le _

namespace Party

theorem count_le_tally_lends (x : Party) :
    x.borrowed.count d + x.checkedOut.count d ≤ tally (lends d) x.tokens := by
  cases hk : x.checkout? with
  | some k =>
      have hborrowed : x.borrowed = [] := by
        cases x with
        | borrower l =>
            cases hk
        | caller k | maintainer n m | closer e | finisher e =>
            rfl
      have hconnection := k.count_connection_le (d := d)
      have hstake : tally (lends d) x.stake = tally (lends d) k.stake := by
        rcases (tokens_of_checkout hk).1 with hsame | hchecking
        · rw [hsame]
        · rw [hchecking]
          simp
      rw [tokens, tally_add, hstake, hborrowed, checkedOut, hk, List.count_nil, Nat.zero_add]
      exact Nat.le_trans hconnection (Nat.le_add_right _ _)
  | none =>
      rw [checkedOut, hk]
      cases x with
      | borrower l =>
          simp [borrowed, tokens, stake, underway, List.count_singleton]
      | caller k | maintainer n m | closer e | finisher e =>
          exact Nat.zero_le _

theorem count_le_tally_lends_stock (xs : List Party) :
    (xs.flatMap borrowed).count d + (xs.flatMap checkedOut).count d
      ≤ tally (lends d) (stock xs) := by
  induction xs with
  | nil =>
      exact Nat.zero_le _
  | cons x rest ih =>
      have hx := x.count_le_tally_lends (d := d)
      rw [stock_cons, tally_add, List.flatMap_cons, List.flatMap_cons, List.count_append,
        List.count_append]
      omega

theorem eq_of_borrowed {xs : List Party} (h : (xs.flatMap borrowed).Nodup) {i j : Nat}
    {l m : Lease} (hi : xs[i]? = some (.borrower l)) (hj : xs[j]? = some (.borrower m))
    (hsame : l.connection = m.connection) : i = j := by
  rcases List.getElem?_eq_some_iff.mp hi with ⟨hi, hxi⟩
  rcases List.getElem?_eq_some_iff.mp hj with ⟨hj, hxj⟩
  have hdisjoint := List.pairwise_iff_getElem.mp (List.nodup_flatMap.mp h).2
  have hshared : ¬List.Disjoint (Party.borrower l).borrowed (Party.borrower m).borrowed := by
    intro hnone
    exact hnone (List.mem_singleton_self _) (List.mem_singleton.mpr hsame)
  rcases Nat.lt_trichotomy i j with hlt | heq | hgt
  · have hapart := hdisjoint i j hi hj hlt
    rw [hxi, hxj] at hapart
    exact absurd hapart hshared
  · exact heq
  · have hapart := hdisjoint j i hj hi hgt
    rw [hxi, hxj] at hapart
    exact absurd hapart.symm hshared

end Party

namespace Traffic

variable {s t : Traffic} {log : Log} {c : PoolConfig}

theorem Run.not_lent_of_gone (h : Run (ofConfig c) log t) (hgone : Gone d t.pool t.held) :
    d ∉ t.pool.idle.map (·.connection) ∧ d ∉ t.borrowed ∧ d ∉ t.checkedOut := by
  have hnamed := h.mentions_eq d
  have honce := List.nodup_iff_count_le_one.mp h.nodup_opened d
  have hsplit := tally_lends_add_gone_le t.held (d := d)
  have hlent := Party.count_le_tally_lends_stock t.parties (d := d)
  have hheld : tally (lends d) t.held
      = tally (lends d) (Party.stock t.parties) + tally (lends d) t.remains := by
    rw [held_eq, tally_add]
  -- It is named once at most, and it is named where it counts as closed.
  unfold Gone at hgone
  unfold mentions idleCount at hnamed
  unfold borrowed checkedOut
  refine ⟨?_, ?_, ?_⟩
  · apply List.count_eq_zero.mp
    omega
  · apply List.count_eq_zero.mp
    omega
  · apply List.count_eq_zero.mp
    omega

/-- Whatever happens at a pool, a connection that the backend has opened is in one place at
most: idle, with one borrower, with one checkout, to be closed, or waiting for the pool to be
set up.  The backend is asked once at most to close it.  A connection that was discarded is
never idle again and never lent again. -/
theorem owned_exclusively (h : Run (ofConfig c) log t) :
    (t.pool.idle.map (·.connection) ++ t.borrowed ++ t.checkedOut ++ t.closings
        ++ t.warmed).Nodup ∧
      (forall d, d ∈ t.connections -> d ∈ t.opened) ∧
      (forall (i j : Nat) (l m : Lease), t.parties[i]? = some (.borrower l) ->
        t.parties[j]? = some (.borrower m) -> l.connection = m.connection -> i = j) ∧
      (forall d, (log.map fun e => e.1.requests d e.2).sum ≤ 1) ∧
      forall e, e ∈ log -> forall d, e.1.Discards e.2 d ->
        d ∉ t.pool.idle.map (·.connection) ∧ d ∉ t.borrowed ∧ d ∉ t.checkedOut := by
  have hnodup := h.nodup_connections
  refine ⟨hnodup, ?_, ?_, ?_, ?_⟩
  · intro d hd
    exact h.mem_opened_of_mem_connections hd
  · intro i j l m hi hj hsame
    have hborrowed : t.borrowed.Nodup := by
      refine List.Nodup.sublist ?_ hnodup
      simp only [connections, List.append_assoc]
      exact (List.sublist_append_left _ _).trans (List.sublist_append_right _ _)
    exact Party.eq_of_borrowed hborrowed hi hj hsame
  · intro d
    exact h.sum_requests_le_one d
  · intro e he d hdiscards
    exact h.not_lent_of_gone (h.gone_of_discards he hdiscards)

def borrowerFindsItBroken : List Action :=
  [.call .warmUp, .reply 0 (.created (.ok ⟨0⟩)), .reply 0 (.created (.ok ⟨1⟩)), .call .acquire,
    .reply 1 (.validated true), .markBroken 1]

/-- A borrower finds its connection broken and gives it back: the other one stays idle, and the
broken one is closed. -/
theorem owned_exclusively_when_broken :
    exists log s t, Run (ofConfig pairConfig) (log ++ [(s, .giveBack 1 true)]) t ∧
      log.map (fun e => e.2) = borrowerFindsItBroken ∧ s.Discards (.giveBack 1 true) ⟨0⟩ ∧
      t.connections = [⟨1⟩, ⟨0⟩] ∧ ⟨0⟩ ∉ t.pool.idle.map (·.connection) := by
  have hrun : ((ofConfig pairConfig).run borrowerFindsItBroken).any
      (fun s => s.released? (.giveBack 1 true) = some ⟨⟨0⟩, ⟨0⟩, true⟩ ∧
        (s.step (.giveBack 1 true)).map connections = some [⟨1⟩, ⟨0⟩]) = true := by
    decide +kernel
  rcases exists_run_of_any hrun with ⟨log, s, h, hactions, hend⟩
  rcases of_decide_eq_true hend with ⟨hreleased, hafter⟩
  rcases Option.map_eq_some_iff.mp hafter with ⟨t, hstep, hplaces⟩
  have hwhole := h.append (Run.act hstep (Run.done t))
  have hdiscards : s.Discards (.giveBack 1 true) ⟨0⟩ := Discards.broken hreleased rfl
  have hlast : (s, Action.giveBack 1 true) ∈ log ++ [(s, Action.giveBack 1 true)] :=
    List.mem_append_right _ (List.mem_singleton_self _)
  exact ⟨log, s, t, hwhole, hactions, hdiscards, hplaces,
    ((owned_exclusively hwhole).2.2.2.2 _ hlast _ hdiscards).1⟩

end Traffic
end PoolHealth
