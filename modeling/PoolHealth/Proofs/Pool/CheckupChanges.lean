import PoolHealth.Proofs.Pool.CheckoutChanges

/-!
# What health checks change

A health check, whether somebody asked for it or maintenance does it, does nothing but
the changes of a pool.
-/

namespace PoolHealth

open ConnectionPool Token

variable {law : Law} {now : Instant}

namespace Checkup

def tokens (k : Checkup) : Multiset Token := k.stake + k.underway

def proceeds : Progress Checkup Bool -> Multiset Token := Progress.tokens tokens fun _ => 0

theorem changes_conclude (p : ConnectionPool) (probeOk : Bool) :
    Changes law now p {.checking} (conclude p now probeOk).1
      (proceeds (conclude p now probeOk).2) := by
  have hverdict : Changes law now p {.checking} (conclude p now probeOk).1 {.checking} :=
    Changes.framed (Change.verdict p _) {.checking} (zero_add _).symm (zero_add _).symm
  exact hverdict.and (Change.checked _) 0 rfl

theorem changes_settleProbe (p : ConnectionPool) (r : Except PoolError Lease) :
    Changes law now p ({.checking} + leased r) (settleProbe p now r).1
      (proceeds (settleProbe p now r).2) := by
  cases r with
  | ok l =>
      have hback : Changes law now p ({.checking} + {.lent l.connection}) (p.giveBack now l true)
          {.checking} :=
        ((Checkout.changes_giveBack p l).frame {.checking}).cast (add_comm _ _) (zero_add _).symm
      exact hback.trans (changes_conclude (p.giveBack now l true) true)
  | error e =>
      rw [show leased (.error e) = 0 from rfl, add_zero]
      cases e with
      | exhausted name =>
          exact changes_conclude p true
      | _ =>
          exact changes_conclude p false

theorem changes_probe (p : ConnectionPool) :
    Changes law now p {.checking} (probe p now).1 (proceeds (probe p now).2) := by
  have hcheckout : Changes law now p (0 + {.checking}) (Checkout.start p now).1
      (Checkout.proceeds (Checkout.start p now).2 + {.checking}) :=
    (Checkout.changes_start p).frame {.checking}
  unfold probe
  cases hstart : Checkout.start p now with
  | mk q progress =>
      rw [hstart] at hcheckout
      cases progress with
      | waiting k =>
          refine hcheckout.cast (zero_add _).symm ?_
          show {.checking} + k.stake + k.underway = k.stake + k.underway + {.checking}
          abel
      | done r =>
          have hdone : Changes law now p {.checking} q ({.checking} + leased r) :=
            hcheckout.cast (zero_add _).symm (add_comm _ _)
          exact hdone.trans (changes_settleProbe q r)

theorem changes_refill (p : ConnectionPool) :
    Changes law now p {.checking} (refill p now).1 (proceeds (refill p now).2) := by
  unfold refill
  cases hreserve : p.reserveRefill? with
  | none =>
      exact changes_probe p
  | some reserved =>
      rcases reserveRefill?_eq_some hreserve with ⟨hmin, hmax, rfl⟩
      cases htake : p.addPending.slots.tryTake with
      | taken slots =>
          simp only [htake]
          exact (Changes.one (Change.reserve hmin hmax htake)).cast rfl (add_zero _)
      | noneFree =>
          simp only [htake, dropPending_addPending]
          exact changes_probe p
      | closed =>
          simp only [htake, dropPending_addPending]
          exact changes_probe p

theorem changes_settleRefill (p : ConnectionPool) (r : Except PoolError Connection) :
    Changes law now p ({.checking} + {.slot .refilling} + Opening.gain (.done r))
      (settleRefill p now r).1 (proceeds (settleRefill p now r).2) := by
  cases r with
  | ok c =>
      refine (Changes.framed (Change.landIdle p c) {.checking} ?_ (zero_add _).symm).trans
        (changes_refill _)
      simp only [Opening.gain]
      abel
  | error e =>
      refine (Changes.framed (Change.refillFailed p) {.checking} ?_ (zero_add _).symm).trans
        (changes_probe _)
      simp only [Opening.gain]
      abel

theorem changes_closeNext (p : ConnectionPool) (c : Connection) (rest : List Connection) :
    Changes law now p ({.checking} + doomed (c :: rest)) p (tokens (evicting c rest)) := by
  refine Changes.framed (Change.hand p c) ({.checking} + doomed rest) ?_ ?_
  · simp only [doomed, each_cons]
    abel
  · simp only [tokens, stake, underway]
    abel

theorem changes_start (p : ConnectionPool) :
    Changes law now p 0 (start p now).1 (proceeds (start p now).2) := by
  unfold start
  cases hready : p.isReady with
  | false =>
      exact Changes.refl p 0
  | true =>
      have hcheck : Changes law now p 0 p {.checking} := Changes.one (Change.check hready)
      have hevict := hcheck.trans (Changes.one (Change.evict p))
      cases htake : p.takeExpired now with
      | mk q expired =>
          rw [htake] at hevict
          cases expired with
          | nil =>
              exact (hevict.cast rfl (add_zero _).symm).trans (changes_refill q)
          | cons c rest =>
              exact hevict.trans (changes_closeNext q c rest)

theorem changes_probing {p q : ConnectionPool} {k : Checkout} {r : Reply}
    {progress : Progress Checkout (Except PoolError Lease)}
    (hfits : r.fits (k.await p.config) = true) (hlate : k.opensLate r = true -> law.late p)
    (hstep : k.step .healthCheck p now r = (q, progress)) :
    Changes law now p ((probing k).stake + raws r.arrivals) q
      ({.checking} + Checkout.proceeds progress) := by
  have hcheckout : Changes law now p (k.stake + raws r.arrivals) (k.step .healthCheck p now r).1
      (Checkout.proceeds (k.step .healthCheck p now r).2) := Checkout.changes_step hfits hlate
  rw [hstep] at hcheckout
  refine (hcheckout.frame {.checking}).cast ?_ (add_comm _ _)
  show {.checking} + k.stake + raws r.arrivals = k.stake + raws r.arrivals + {.checking}
  abel

theorem changes_step {p : ConnectionPool} {k : Checkup} {r : Reply}
    (hfits : r.fits (k.await p.config) = true)
    (hlate : forall c, k.checkout? = some c -> c.opensLate r = true -> law.late p) :
    Changes law now p (k.stake + raws r.arrivals) (k.step p now r).1
      (proceeds (k.step p now r).2) := by
  have hnothing : forall c, r.fits (.close c) = true -> raws r.arrivals = 0 := by
    intro c hclosed
    rw [Reply.arrivals_of_fits_close hclosed]
    rfl
  have honward := onward p now k r
  generalize k.step p now r = after at honward ⊢
  cases honward with
  | next hclosed =>
      rw [hnothing _ hclosed, add_zero]
      exact changes_closeNext p _ _
  | refill hclosed =>
      rw [hnothing _ hclosed, add_zero]
      exact (changes_refill p).cast (add_zero _) rfl
  | openAgain hstep =>
      exact Opening.changes_beside hfits hstep ({.checking} + {.slot .refilling})
  | opened hstep =>
      exact (Opening.changes_beside hfits hstep ({.checking} + {.slot .refilling})).trans
        (changes_settleRefill _ _)
  | @probeAgain k k' _ _ hstep =>
      refine (changes_probing hfits (hlate k rfl) hstep).cast rfl ?_
      exact add_assoc {.checking} k'.stake k'.underway
  | @probed k _ _ _ hstep =>
      exact (changes_probing hfits (hlate k rfl) hstep).trans (changes_settleProbe _ _)
  | still hunfit =>
      cases hfits.symm.trans hunfit

theorem changes_cancel (hdrops : law.drops) (p : ConnectionPool) (k : Checkup) :
    Changes law now p k.stake (k.cancel p now) k.remains := by
  have hquit : Changes law now p {.checking} p 0 := Changes.one (Change.checked p)
  cases k with
  | evicting closing rest =>
      exact (hquit.frame (doomed rest)).trans
        ((Checkout.changes_lose hdrops p rest).cast (zero_add _) rfl)
  | refilling o =>
      exact (hquit.frame {.slot .refilling}).trans
        ((Changes.one (Change.refillFailed p)).cast (zero_add _) rfl)
  | probing c =>
      exact (hquit.frame c.stake).trans
        ((Checkout.changes_cancel hdrops p c).cast (zero_add _) rfl)

end Checkup

namespace Maintenance

def tokens (m : Maintenance) : Multiset Token := m.stake + m.underway

theorem pool_settle (due : Instant) (result : ConnectionPool × Progress Checkup Bool) :
    (settle due result).1 = result.1 := by
  cases result with
  | mk q progress =>
      cases progress with
      | waiting k =>
          rfl
      | done healthy =>
          rfl

theorem changes_settle {p : ConnectionPool} {A : Multiset Token} (due : Instant)
    {result : ConnectionPool × Progress Checkup Bool}
    (h : Changes law now p A result.1 (Checkup.proceeds result.2)) :
    Changes law now p A (settle due result).1 (tokens (settle due result).2) := by
  cases result with
  | mk q progress =>
      cases progress with
      | waiting k =>
          exact h
      | done healthy =>
          exact h

theorem changes_step {p : ConnectionPool} {m : Maintenance} {r : Reply}
    (hfits : forall due k, m = checking due k -> r.fits (k.await p.config) = true)
    (hpause : forall due, m = resting due -> r = .stirred)
    (hlate : forall c, m.checkout? = some c -> c.opensLate r = true -> law.late p) :
    Changes law now p (m.stake + raws r.arrivals) (m.step p now r).1
      (tokens (m.step p now r).2) := by
  cases m with
  | resting due =>
      rw [hpause due rfl]
      exact changes_settle _ (Checkup.changes_start p)
  | checking due k =>
      exact changes_settle due (Checkup.changes_step (hfits due k rfl) hlate)

theorem changes_cancel (hdrops : law.drops) (p : ConnectionPool) (m : Maintenance) :
    Changes law now p m.stake (m.cancel p now) m.remains := by
  cases m with
  | resting due =>
      exact Changes.refl p 0
  | checking due k =>
      exact Checkup.changes_cancel hdrops p k

end Maintenance
end PoolHealth
