import PoolHealth.Proofs.Pool.Cancellation

/-!
# Every connection is closed once

A log tells which connections the backend was asked to close: somebody waited for that, and
the wait came to its end.  If nothing is dropped, a connection that nobody has any more was
closed once or it is idle.  The one exception is a loan that ends where nothing can be
done in the background, with a connection that should be closed.
-/

namespace PoolHealth

open ConnectionPool Token

def Await.isClose (d : Connection) : Await -> Bool
  | close e => e = d
  | slot _ | lifecycle _ | maintenanceEnd | create | validate _ | pause _ => false

theorem Opening.isClose_await (d : Connection) (c : PoolConfig) (o : Opening) :
    (o.await c).isClose d = false := by
  cases o with
  | creating n | pausing n =>
      rfl

variable {d : Connection} {c : PoolConfig}

/-!
## Connections that are being closed
-/

theorem Token.tally_names_retired (e : Connection) (f : Fate) :
    tally (names d) {.retired e f} = ((Await.close e).isClose d).toNat := by
  by_cases hsame : e = d
  · simp [Await.isClose, hsame]
  · simp [Await.isClose, hsame]

theorem Checkout.tally_names_underway (k : Checkout) :
    tally (names d) k.underway = ((k.await c).isClose d).toNat := by
  cases k with
  | closingExpired e rest candidate | closingInvalid e =>
      exact tally_names_retired e .passed
  | validating l =>
      rfl
  | opening o =>
      show 0 = ((o.await c).isClose d).toNat
      rw [o.isClose_await]
      rfl

theorem Checkup.tally_names_underway (k : Checkup) :
    tally (names d) k.underway = ((k.await c).isClose d).toNat := by
  cases k with
  | evicting e rest =>
      exact tally_names_retired e .passed
  | refilling o =>
      show 0 = ((o.await c).isClose d).toNat
      rw [o.isClose_await]
      rfl
  | probing k =>
      exact k.tally_names_underway

theorem WarmUp.tally_names_underway (k : WarmUp) :
    tally (names d) k.underway = ((k.await c).isClose d).toNat := by
  cases k with
  | queued t =>
      rfl
  | opening opened o =>
      show 0 = ((o.await c).isClose d).toNat
      rw [o.isClose_await]
      rfl
  | rollingBack e rest failure =>
      exact tally_names_retired e .passed

theorem ShutDown.tally_names_underway (k : ShutDown) :
    tally (names d) k.underway = (k.await.isClose d).toNat := by
  cases k with
  | queued t | awaitingMaintenance =>
      rfl
  | closing e rest failure =>
      exact tally_names_retired e .passed

theorem PoolCall.tally_names_underway (k : PoolCall) :
    tally (names d) k.underway = ((k.await c).isClose d).toNat := by
  cases k with
  | acquire k =>
      cases k with
      | queued t started =>
          rfl
      | checkingOut started k =>
          exact k.tally_names_underway
  | tryAcquire k =>
      exact k.tally_names_underway
  | checkup k =>
      exact k.tally_names_underway
  | warmUp k =>
      exact k.tally_names_underway
  | shutDown k =>
      exact k.tally_names_underway

namespace Party

def await? (c : PoolConfig) : Party -> Option Await
  | caller k => some (k.await c)
  | maintainer _ (.checking _ k) => some (k.await c)
  | finisher e => some (.close e)
  | maintainer _ (.resting _) | borrower _ | closer _ => none

/-- A connection is on its way through the backend's `close` exactly if somebody waits for
that. -/
theorem tally_names_underway (x : Party) :
    tally (names d) x.underway = ((x.await? c).any fun a => a.isClose d).toNat := by
  cases x with
  | caller k =>
      exact k.tally_names_underway
  | maintainer n m =>
      cases m with
      | resting due =>
          rfl
      | checking due k =>
          exact k.tally_names_underway
  | finisher e =>
      exact tally_names_retired e .passed
  | borrower l | closer e =>
      rfl

end Party

namespace Traffic

variable {s t : Traffic} {log : Log}

def closes (d : Connection) (s : Traffic) : Action -> Bool
  | .reply i _ => s.parties[i]?.any fun x => (x.await? s.pool.config).any fun a => a.isClose d
  | .elapse _ | .call _ | .drop _ | .giveBack _ _ | .markBroken _ | .retire _ => false

/-- Whether an action ends a loan of the connection so that nobody closes it although it
should be closed. -/
def strands (d : Connection) (s : Traffic) : Action -> Bool
  | .giveBack i background =>
      match s.parties[i]? with
      | some (.borrower l) =>
          !(background || s.pool.isReusable s.now l) && l.connection = d
      | _ => false
  | .elapse _ | .call _ | .reply _ _ | .drop _ | .markBroken _ | .retire _ => false

theorem tally_names_stranded (s : Traffic) (l : Lease) (background : Bool) :
    tally (names d) (s.stranded l background)
      = (!(background || s.pool.isReusable s.now l) && l.connection = d).toNat := by
  unfold stranded
  cases background || s.pool.isReusable s.now l with
  | true =>
      rfl
  | false =>
      exact tally_names_retired l.connection .lost

theorem tally_names_leavings {a : Action} (hkept : forall i, a ≠ .drop i) :
    tally (names d) (s.leavings a) = (s.closes d a).toNat + (s.strands d a).toNat := by
  cases a with
  | reply i r =>
      cases hx : s.parties[i]? with
      | none =>
          simp [leavings, closes, strands, hx]
      | some x =>
          simpa [leavings, closes, strands, hx] using x.tally_names_underway (c := s.pool.config)
  | drop i =>
      exact absurd rfl (hkept i)
  | giveBack i background =>
      cases hx : s.parties[i]? with
      | none =>
          simp [leavings, closes, strands, hx]
      | some x =>
          cases x with
          | borrower l =>
              simp [leavings, closes, strands, hx, tally_names_stranded]
          | caller k | maintainer n m | closer e | finisher e =>
              simp [leavings, closes, strands, hx]
  | elapse e | call request | markBroken i | retire i =>
      rfl

theorem Run.tally_names_remains (d : Connection) (h : Run s log t)
    (hundisturbed : Undisturbed log) :
    tally (names d) t.remains
      = tally (names d) s.remains + (log.countP fun e => e.1.closes d e.2)
        + log.countP fun e => e.1.strands d e.2 := by
  have hleavings : (log.map fun e => tally (names d) (e.1.leavings e.2))
      = log.map fun e => (e.1.closes d e.2).toNat + (e.1.strands d e.2).toNat := by
    apply List.map_congr_left
    intro e he
    exact tally_names_leavings (hundisturbed e he)
  rw [h.tally_remains, hleavings, List.sum_map_add, sum_map_toNat, sum_map_toNat, Nat.add_assoc]

/-!
## Connections that were opened
-/

theorem notMem_opened_of_allows {a : Await} {r : Reply} (h : s.allows a r = true)
    (hd : d ∈ r.arrivals) : d ∉ s.opened := by
  unfold allows at h
  rw [Bool.and_eq_true] at h
  simpa using List.all_eq_true.mp h.2 d hd

theorem notMem_opened_of_proceed {r : Reply} {x : Party} {p : ConnectionPool} {xs : List Party}
    (h : s.proceed r x = some (p, xs)) (hd : d ∈ r.arrivals) : d ∉ s.opened := by
  have hpause : r.fits (.pause .zero) = true -> d ∉ s.opened := by
    intro hfits
    rw [Reply.eq_stirred_of_fits_pause hfits] at hd
    cases hd
  have hite : forall {a : Await} {q : ConnectionPool × List Party},
      (if s.allows a r = true then some q else none) = some (p, xs) -> d ∉ s.opened := by
    intro a q hsome
    by_cases hallows : s.allows a r = true
    · exact notMem_opened_of_allows hallows hd
    · rw [if_neg hallows] at hsome
      cases hsome
  cases x with
  | caller k =>
      exact hite h
  | finisher e =>
      exact hite h
  | maintainer n m =>
      cases m with
      | checking due k =>
          exact hite h
      | resting due =>
          simp only [proceed] at h
          by_cases hdue : r.fits (.pause .zero) = true ∧ due ≤ s.now
          · exact hpause hdue.1
          · rw [if_neg hdue] at h
            cases h
  | closer e =>
      simp only [proceed] at h
      by_cases hbegins : r.fits (.pause .zero) = true
      · exact hpause hbegins
      · rw [if_neg hbegins] at h
        cases h
  | borrower l =>
      cases h

theorem nodup_opened_step {a : Action} (hnodup : s.opened.Nodup) (h : s.step a = some t) :
    t.opened.Nodup := by
  rw [opened_step h]
  rcases step_cases h with
    ⟨e, rfl, rfl⟩ | ⟨request, rfl, rfl⟩ | ⟨i, r, x, p, xs, rfl, hx, hproceed, rfl⟩ |
    ⟨i, x, p, rfl, hx, habandon, rfl⟩ | ⟨i, background, l, rfl, hx, rfl⟩ | ⟨i, l, rfl, hx, rfl⟩ |
    ⟨i, n, due, rfl, hx, htold, rfl⟩
  · exact (List.append_nil _).symm ▸ hnodup
  · exact (List.append_nil _).symm ▸ hnodup
  · refine List.nodup_append.mpr ⟨hnodup, ?_, ?_⟩
    · cases r with
      | created result =>
          cases result with
          | ok e =>
              exact List.nodup_singleton e
          | error failure =>
              exact List.nodup_nil
      | stirred | timedOut | validated ok | closed result =>
          exact List.nodup_nil
    · intro e he f hf hsame
      subst hsame
      exact notMem_opened_of_proceed hproceed hf he
  · exact (List.append_nil _).symm ▸ hnodup
  · exact (List.append_nil _).symm ▸ hnodup
  · exact (List.append_nil _).symm ▸ hnodup
  · exact (List.append_nil _).symm ▸ hnodup

theorem Run.nodup_opened (h : Run (ofConfig c) log t) : t.opened.Nodup :=
  h.invariant nodup_opened_step List.nodup_nil

/-!
## When nobody is left
-/

theorem held_eq_remains (hnobody : t.parties = []) : t.held = t.remains := by
  rw [held_eq, hnobody, Party.stock_nil, zero_add]

/-- When everybody is gone, a connection was closed once, or it is idle, or it was stranded. -/
theorem Run.closed_once (h : Run (ofConfig c) log t) (hundisturbed : Undisturbed log)
    (hnobody : t.parties = []) (hd : d ∈ t.opened) :
    (log.countP fun e => e.1.closes d e.2) + (log.countP fun e => e.1.strands d e.2)
      + t.pool.idleCount d = 1 := by
  have hdues := (h.settled (settled_ofConfig c)).dues_eq_nil
  have hnamed := h.mentions_eq d
  have hremains := h.tally_names_remains d hundisturbed
  rw [mentions, hdues, List.count_nil, List.count_eq_one_of_mem h.nodup_opened hd,
    held_eq_remains hnobody, hremains] at hnamed
  have hnone : tally (names d) (ofConfig c).remains = 0 := rfl
  omega

/-- When everybody is gone, the connections of the pool are the idle ones. -/
theorem Run.total_eq_length_idle (h : Run (ofConfig c) log t) (hundisturbed : Undisturbed log)
    (hnobody : t.parties = []) : t.pool.stats.total = t.pool.idle.length := by
  have hnothing : (log.countP fun e => e.1.forgets e.2) = 0 := by
    rw [List.countP_eq_zero]
    rintro ⟨s, a⟩ he hforgets
    cases a with
    | drop i =>
        exact hundisturbed _ he i rfl
    | elapse e | call request | reply i r | giveBack i background | markBroken i | retire i =>
        cases hforgets
  have hactive : t.pool.stats.active = 0 := by
    rw [h.active_eq, hnothing, hnobody]
    rfl
  rw [h.balanced.total, hactive, Nat.zero_add]

end Traffic
end PoolHealth
