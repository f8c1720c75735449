import PoolHealth.Proofs.Pool.CheckupChanges

/-!
# What setting up and shutting down change

A request to set the pool up or to shut it down does nothing but the changes of a pool,
and therefore no call of a pool does anything else.
-/

namespace PoolHealth

open ConnectionPool Token

variable {law : Law} {now : Instant}

namespace WarmUp

def tokens (k : WarmUp) : Multiset Token := k.stake + k.underway

def proceeds : Progress WarmUp (Except PoolError Unit) -> Multiset Token :=
  Progress.tokens tokens fun _ => 0

/-- At least one connection is missing as long as connections are opened. -/
def Unfinished (c : PoolConfig) : WarmUp -> Prop
  | opening opened _ => opened.length < c.minSize.toNat
  | queued _ | rollingBack _ _ _ => True

theorem changes_finish (p : ConnectionPool) (r : Except PoolError Unit) :
    Changes law now p {.lock .entering} (finish p r).1 (proceeds (finish p r).2) :=
  Changes.one (Change.unlock p)

theorem changes_complete {p : ConnectionPool} {opened : List Connection}
    (hfew : opened.length ≤ p.config.minSize.toNat) :
    Changes law now p ({.lock .warming} + raws opened) (complete p now opened).1
      (proceeds (complete p now opened).2) :=
  (Changes.one (Change.warmed hfew)).trans (changes_finish _ (.ok ()))

theorem changes_goOn {p : ConnectionPool} {opened : List Connection}
    (hfew : opened.length ≤ p.config.minSize.toNat) :
    Changes law now p ({.lock .warming} + raws opened) (goOn p now opened).1
      (proceeds (goOn p now opened).2) := by
  unfold goOn
  by_cases hmissing : opened.length < p.config.minSize.toNat
  · rw [if_pos hmissing]
    exact (Changes.refl p _).cast rfl (add_zero _)
  · rw [if_neg hmissing]
    exact changes_complete hfew

theorem unfinished_goOn (p : ConnectionPool) {opened : List Connection} {k : WarmUp}
    {c : PoolConfig} (hconfig : p.config = c) (h : (goOn p now opened).2 = .waiting k) :
    k.Unfinished c := by
  unfold goOn at h
  by_cases hmissing : opened.length < p.config.minSize.toNat
  · rw [if_pos hmissing] at h
    cases h
    rw [← hconfig]
    exact hmissing
  · rw [if_neg hmissing] at h
    cases h

theorem changes_rollBack (p : ConnectionPool) (e : PoolError) (opened : List Connection) :
    Changes law now p ({.lock .warming} + raws opened) (rollBack p e opened).1
      (proceeds (rollBack p e opened).2) := by
  cases opened with
  | nil =>
      have hcooled : Changes law now p ({.lock .warming} + raws []) (p.setPhase .uninitialized)
          {.lock .entering} := Changes.framed (Change.cooled p) 0 rfl (add_zero _).symm
      exact hcooled.trans (changes_finish _ (.error e))
  | cons c rest =>
      refine Changes.framed (Change.handRaw p c) ({.lock .warming} + raws rest) ?_ ?_
      · simp only [raws, each_cons]
        abel
      · show stake (rollingBack c rest e) + underway (rollingBack c rest e) = _
        simp only [stake, underway]
        abel

theorem unfinished_rollBack {p : ConnectionPool} {e : PoolError} {opened : List Connection}
    {k : WarmUp} {c : PoolConfig} (h : (rollBack p e opened).2 = .waiting k) :
    k.Unfinished c := by
  cases opened with
  | nil =>
      cases h
  | cons d rest =>
      cases h
      exact trivial

theorem changes_enter (p : ConnectionPool) :
    Changes law now p {.lock .entering} (enter p now).1 (proceeds (enter p now).2) := by
  have hwarm : p.phase ≠ .ready -> p.phase ≠ .closed ->
      Changes law now p {.lock .entering} (goOn (p.setPhase .initializing) now []).1
        (proceeds (goOn (p.setPhase .initializing) now []).2) := by
    intro hready hclosed
    have hbegun : Changes law now p {.lock .entering} (p.setPhase .initializing)
        ({.lock .warming} + raws []) :=
      (Changes.one (Change.warm hready hclosed)).cast rfl (add_zero _)
    exact hbegun.trans (changes_goOn (Nat.zero_le _))
  unfold enter
  cases hphase : p.phase with
  | ready | closed =>
      exact changes_finish p (.ok ())
  | uninitialized | initializing | shuttingDown =>
      apply hwarm
      · simp [hphase]
      · simp [hphase]

theorem unfinished_enter (p : ConnectionPool) {k : WarmUp} {c : PoolConfig}
    (hconfig : p.config = c) (h : (enter p now).2 = .waiting k) : k.Unfinished c := by
  unfold enter at h
  cases hphase : p.phase with
  | ready | closed =>
      rw [hphase] at h
      cases h
  | uninitialized | initializing | shuttingDown =>
      rw [hphase] at h
      exact unfinished_goOn (p.setPhase .initializing) hconfig h

theorem changes_start (p : ConnectionPool) :
    Changes law now p 0 (start p now).1 (proceeds (start p now).2) := by
  unfold start
  cases htake : p.lifecycle.tryTake with
  | taken lock =>
      exact (Changes.one (Change.lock htake)).trans (changes_enter { p with lifecycle := lock })
  | noneFree | closed =>
      exact Changes.one (Change.lineForLock p)

theorem unfinished_start {p : ConnectionPool} {k : WarmUp}
    (h : (start p now).2 = .waiting k) : k.Unfinished p.config := by
  unfold start at h
  cases htake : p.lifecycle.tryTake with
  | taken lock =>
      rw [htake] at h
      exact unfinished_enter { p with lifecycle := lock } rfl h
  | noneFree | closed =>
      rw [htake] at h
      cases h
      exact trivial

theorem changes_step {p : ConnectionPool} {k : WarmUp} {r : Reply}
    (hfits : r.fits (k.await p.config) = true) (hmissing : k.Unfinished p.config) :
    Changes law now p (k.stake + raws r.arrivals) (k.step p now r).1
      (proceeds (k.step p now r).2) := by
  have honward := onward p now k r
  generalize k.step p now r = after at honward ⊢
  cases honward with
  | called hturn =>
      rw [Reply.arrivals_of_fits_lifecycle hfits]
      exact (Changes.one (Change.calledForLock hturn)).trans (changes_enter _)
  | patient hwaits =>
      rw [Reply.arrivals_of_fits_lifecycle hfits]
      exact Changes.refl p 0
  | @again opened _ _ _ _ hstep =>
      exact Opening.changes_beside hfits hstep ({.lock .warming} + raws opened)
  | @another opened _ _ q c hstep =>
      have hopened : Changes law now p ({.lock .warming} + raws opened + raws r.arrivals) q
          ({.lock .warming} + raws opened + Opening.gain (.done (.ok c))) :=
        Opening.changes_beside hfits hstep ({.lock .warming} + raws opened)
      have hfew : (opened ++ [c]).length ≤ q.config.minSize.toNat := by
        rw [List.length_append, hopened.config_eq]
        exact hmissing
      refine hopened.trans ((changes_goOn hfew).cast ?_ rfl)
      simp only [raws, each_append, each_cons, each_nil, Opening.gain]
      abel
  | @failed opened _ _ q e hstep =>
      have hopened : Changes law now p ({.lock .warming} + raws opened + raws r.arrivals) q
          ({.lock .warming} + raws opened + 0) :=
        Opening.changes_beside hfits hstep ({.lock .warming} + raws opened)
      exact (hopened.cast rfl (add_zero _).symm).trans (changes_rollBack q e opened)
  | rollBack hclosed =>
      rw [Reply.arrivals_of_fits_close hclosed]
      exact (changes_rollBack p _ _).cast (add_zero _) rfl
  | still hunfit =>
      cases hfits.symm.trans hunfit

theorem unfinished_step {p : ConnectionPool} {k k' : WarmUp} {r : Reply}
    (hmissing : k.Unfinished p.config) (h : (k.step p now r).2 = .waiting k') :
    k'.Unfinished p.config := by
  have honward := onward p now k r
  generalize k.step p now r = after at honward h
  cases honward with
  | called hturn =>
      exact unfinished_enter { p with lifecycle := p.lifecycle.collect _ } rfl h
  | patient hwaits =>
      cases h
      exact trivial
  | again hstep =>
      cases h
      exact hmissing
  | another hstep =>
      exact unfinished_goOn _ (Opening.config_eq_of_step hstep) h
  | failed hstep =>
      exact unfinished_rollBack h
  | rollBack hclosed =>
      exact unfinished_rollBack h
  | still hunfit =>
      cases h
      exact trivial

theorem changes_scrap (hdrops : law.drops) (p : ConnectionPool) (cs : List Connection) :
    Changes law now p (raws cs) p (scrapped cs) := by
  induction cs with
  | nil =>
      exact Changes.refl p 0
  | cons c rest ih =>
      have hfirst : Changes law now p (raws (c :: rest)) p ({.raw c .lost} + raws rest) :=
        Changes.framed (Change.loseRaw p c hdrops) (raws rest) rfl rfl
      have hrest := ih.frame {.raw c .lost}
      refine hfirst.trans (hrest.cast (add_comm _ _) ?_)
      simp only [scrapped, each_cons]
      abel

theorem changes_cancel (hdrops : law.drops) (p : ConnectionPool) (k : WarmUp) :
    Changes law now p k.stake (k.cancel p) k.remains := by
  have hlock : Changes law now p {.lock .warming} p.releaseLock 0 :=
    Changes.one (Change.abandonLock p .warming hdrops)
  cases k with
  | queued t =>
      exact Changes.one (Change.leaveLockLine p t)
  | opening opened o =>
      exact (hlock.frame (raws opened)).trans
        ((changes_scrap hdrops _ opened).cast (zero_add _) rfl)
  | rollingBack c rest e =>
      exact (hlock.frame (raws rest)).trans ((changes_scrap hdrops _ rest).cast (zero_add _) rfl)

end WarmUp

namespace ShutDown

def tokens (k : ShutDown) : Multiset Token := k.stake + k.underway

def proceeds : Progress ShutDown (Except PoolError Unit) -> Multiset Token :=
  Progress.tokens tokens fun _ => 0

theorem changes_closeNext (p : ConnectionPool) (failure : Option BackendError)
    (cs : List Connection) :
    Changes law now p ({.lock .draining} + doomed cs) (closeNext p failure cs).1
      (proceeds (closeNext p failure cs).2) := by
  cases cs with
  | nil =>
      have hdrained : Changes law now p ({.lock .draining} + doomed []) (p.setPhase .closed)
          {.lock .entering} := Changes.framed (Change.drained p) 0 rfl (add_zero _).symm
      exact hdrained.trans (Changes.one (Change.unlock _))
  | cons c rest =>
      refine Changes.framed (Change.hand p c) ({.lock .draining} + doomed rest) ?_ ?_
      · simp only [doomed, each_cons]
        abel
      · show stake (closing c rest failure) + underway (closing c rest failure) = _
        simp only [stake, underway]
        abel

theorem changes_drain (p : ConnectionPool) :
    Changes law now p {.lock .shutting} (drain p).1 (proceeds (drain p).2) :=
  (Changes.one (Change.drain p)).trans
    (changes_closeNext p.closeSlots.takeAllIdle.1 none p.closeSlots.takeAllIdle.2)

theorem changes_enter (p : ConnectionPool) :
    Changes law now p {.lock .entering} (enter p).1 (proceeds (enter p).2) := by
  have hshut : p.phase ≠ .uninitialized -> p.phase ≠ .closed ->
      Changes law now p {.lock .entering} (p.setPhase .shuttingDown) {.lock .shutting} := by
    intro hunused hclosed
    exact Changes.one (Change.shut hunused hclosed)
  unfold enter
  cases hphase : p.phase with
  | closed =>
      exact Changes.one (Change.unlock p)
  | uninitialized =>
      exact (Changes.one (Change.closeUnused hphase)).trans (Changes.one (Change.unlock _))
  | initializing | ready | shuttingDown =>
      have hbegun := hshut (by simp [hphase]) (by simp [hphase])
      by_cases hmaintained : (p.setPhase .shuttingDown).maintained = true
      · simp only [if_pos hmaintained]
        exact (hbegun.trans (Changes.one (Change.tellMaintenance _))).cast rfl (add_zero _)
      · simp only [if_neg hmaintained]
        exact hbegun.trans (changes_drain _)

theorem changes_start (p : ConnectionPool) :
    Changes law now p 0 (start p).1 (proceeds (start p).2) := by
  unfold start
  cases htake : p.lifecycle.tryTake with
  | taken lock =>
      exact (Changes.one (Change.lock htake)).trans (changes_enter { p with lifecycle := lock })
  | noneFree | closed =>
      exact Changes.one (Change.lineForLock p)

theorem changes_step {p : ConnectionPool} {k : ShutDown} {r : Reply}
    (hfits : r.fits k.await = true) :
    Changes law now p (k.stake + raws r.arrivals) (k.step p r).1
      (proceeds (k.step p r).2) := by
  have hwaited : forall t, r.fits (.lifecycle t) = true -> raws r.arrivals = 0 := by
    intro t hstirred
    rw [Reply.arrivals_of_fits_lifecycle hstirred]
    rfl
  have honward := onward p k r
  generalize k.step p r = after at honward ⊢
  cases honward with
  | called hturn =>
      rw [hwaited _ hfits]
      exact (Changes.one (Change.calledForLock hturn)).trans (changes_enter _)
  | patient hwaits =>
      rw [hwaited _ hfits]
      exact Changes.refl p 0
  | drain =>
      cases r with
      | stirred =>
          exact (changes_drain p).cast (add_zero _) rfl
      | timedOut | created result | validated ok | closed result =>
          cases hfits
  | closed | failed | timedOut =>
      exact (changes_closeNext p _ _).cast (add_zero _) rfl
  | still hunfit =>
      cases hfits.symm.trans hunfit

theorem changes_cancel (hdrops : law.drops) (p : ConnectionPool) (k : ShutDown) :
    Changes law now p k.stake (k.cancel p) k.remains := by
  cases k with
  | queued t =>
      exact Changes.one (Change.leaveLockLine p t)
  | awaitingMaintenance =>
      exact Changes.one (Change.abandonLock p .shutting hdrops)
  | closing c rest failure =>
      have hlock : Changes law now p {.lock .draining} p.releaseLock 0 :=
        Changes.one (Change.abandonLock p .draining hdrops)
      exact (hlock.frame (doomed rest)).trans
        ((Checkout.changes_lose hdrops _ rest).cast (zero_add _) rfl)

end ShutDown

/-!
## Calls
-/

namespace PoolAnswer

def gain : PoolAnswer -> Multiset Token
  | lent r => leased r
  | checked _ | switched _ => 0

end PoolAnswer

namespace PoolCall

def tokens (k : PoolCall) : Multiset Token := k.stake + k.underway

def proceeds : Progress PoolCall PoolAnswer -> Multiset Token :=
  Progress.tokens tokens PoolAnswer.gain

theorem pool_wrap {σ α : Type} (call : σ -> PoolCall) (answer : α -> PoolAnswer)
    (result : ConnectionPool × Progress σ α) : (wrap call answer result).1 = result.1 := by
  cases result with
  | mk q progress =>
      cases progress with
      | waiting k =>
          rfl
      | done a =>
          rfl

theorem changes_wrap {σ α : Type} {call : σ -> PoolCall} {answer : α -> PoolAnswer}
    {waiter : σ -> Multiset Token} {gain : α -> Multiset Token} {p : ConnectionPool}
    {A : Multiset Token} {result : ConnectionPool × Progress σ α}
    (h : Changes law now p A result.1 (result.2.tokens waiter gain))
    (hcall : forall k, waiter k = tokens (call k))
    (hanswer : forall a, gain a = (answer a).gain) :
    Changes law now p A (wrap call answer result).1 (proceeds (wrap call answer result).2) := by
  cases result with
  | mk q progress =>
      cases progress with
      | waiting k =>
          exact h.cast rfl (hcall k).symm
      | done a =>
          exact h.cast rfl (hanswer a).symm

theorem changes_start (p : ConnectionPool) (request : PoolRequest) :
    Changes law now p 0 (start p now request).1 (proceeds (start p now request).2) := by
  cases request with
  | acquire =>
      exact changes_wrap (Acquire.changes_start p) (fun _ => rfl) (fun _ => rfl)
  | tryAcquire =>
      exact changes_wrap (Checkout.changes_start p) (fun _ => rfl) (fun _ => rfl)
  | checkup =>
      exact changes_wrap (Checkup.changes_start p) (fun _ => rfl) (fun _ => rfl)
  | warmUp =>
      exact changes_wrap (WarmUp.changes_start p) (fun _ => rfl) (fun _ => rfl)
  | shutDown =>
      exact changes_wrap (ShutDown.changes_start p) (fun _ => rfl) (fun _ => rfl)

def Unfinished (c : PoolConfig) : PoolCall -> Prop
  | warmUp k => k.Unfinished c
  | acquire _ | tryAcquire _ | checkup _ | shutDown _ => True

theorem changes_step {p : ConnectionPool} {k : PoolCall} {r : Reply}
    (hfits : r.fits (k.await p.config) = true) (hmissing : k.Unfinished p.config)
    (hlate : forall c, k.checkout? = some c -> c.opensLate r = true -> law.late p) :
    Changes law now p (k.stake + raws r.arrivals) (k.step p now r).1
      (proceeds (k.step p now r).2) := by
  cases k with
  | acquire k =>
      exact changes_wrap (Acquire.changes_step hfits hlate) (fun _ => rfl) (fun _ => rfl)
  | tryAcquire k =>
      exact changes_wrap (Checkout.changes_step hfits (hlate k rfl)) (fun _ => rfl) (fun _ => rfl)
  | checkup k =>
      exact changes_wrap (Checkup.changes_step hfits hlate) (fun _ => rfl) (fun _ => rfl)
  | warmUp k =>
      exact changes_wrap (WarmUp.changes_step hfits hmissing) (fun _ => rfl) (fun _ => rfl)
  | shutDown k =>
      exact changes_wrap (ShutDown.changes_step hfits) (fun _ => rfl) (fun _ => rfl)

theorem changes_cancel (hdrops : law.drops) (p : ConnectionPool) (k : PoolCall) :
    Changes law now p k.stake (k.cancel p now) k.remains := by
  cases k with
  | acquire k =>
      exact Acquire.changes_cancel hdrops p k
  | tryAcquire k =>
      exact Checkout.changes_cancel hdrops p k
  | checkup k =>
      exact Checkup.changes_cancel hdrops p k
  | warmUp k =>
      exact WarmUp.changes_cancel hdrops p k
  | shutDown k =>
      exact ShutDown.changes_cancel hdrops p k

theorem exists_of_wrap_eq_waiting {σ α : Type} {call : σ -> PoolCall} {answer : α -> PoolAnswer}
    {result : ConnectionPool × Progress σ α} {k : PoolCall}
    (h : (wrap call answer result).2 = .waiting k) :
    exists s, result.2 = .waiting s ∧ k = call s := by
  cases result with
  | mk q progress =>
      cases progress with
      | waiting s =>
          cases h
          exact ⟨s, rfl, rfl⟩
      | done a =>
          cases h

theorem unfinished_start {p : ConnectionPool} {request : PoolRequest} {k : PoolCall}
    (h : (start p now request).2 = .waiting k) : k.Unfinished p.config := by
  cases request with
  | warmUp =>
      rcases exists_of_wrap_eq_waiting h with ⟨s, hwaiting, rfl⟩
      exact WarmUp.unfinished_start hwaiting
  | acquire | tryAcquire | checkup | shutDown =>
      rcases exists_of_wrap_eq_waiting h with ⟨s, _, rfl⟩
      exact trivial

theorem unfinished_step {p : ConnectionPool} {k k' : PoolCall} {r : Reply}
    (hmissing : k.Unfinished p.config) (h : (k.step p now r).2 = .waiting k') :
    k'.Unfinished p.config := by
  cases k with
  | warmUp k =>
      rcases exists_of_wrap_eq_waiting h with ⟨s, hwaiting, rfl⟩
      exact WarmUp.unfinished_step hmissing hwaiting
  | acquire k | tryAcquire k | checkup k | shutDown k =>
      rcases exists_of_wrap_eq_waiting h with ⟨s, _, rfl⟩
      exact trivial

end PoolCall
end PoolHealth
