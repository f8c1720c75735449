import PoolHealth.Proofs.Pool.Lines
import PoolHealth.Proofs.Pool.Phases

/-!
# The life of a pool

A pool is set up, it is ready, it is shut down, and it is closed.  It goes back only if
setting it up failed, and it skips all that only if it is shut down before it was ever set
up.  Those who set it up or shut it down wait for each other, and whoever comes to hold the
lifecycle lock finds that nobody is in the middle of that.
-/

namespace PoolHealth

open ConnectionPool Token

namespace PoolPhase

inductive Next : PoolPhase -> PoolPhase -> Prop where
  | begun : Next uninitialized initializing
  | failed : Next initializing uninitialized
  | furnished : Next initializing ready
  | shut : Next ready shuttingDown
  | finished : Next shuttingDown closed
  | unused : Next uninitialized closed

/-- What an action does to the phase: nothing, or one move.  A pool without a least size is
set up in two moves at once. -/
def Moves (c : PoolConfig) (p q : PoolPhase) : Prop :=
  q = p ∨ Next p q ∨ c.minSize = 0 ∧ p = uninitialized ∧ q = ready

def isEarly : PoolPhase -> Bool
  | uninitialized | initializing => true
  | ready | shuttingDown | closed => false

variable {c : PoolConfig} {p q : PoolPhase}

theorem Moves.early (h : Moves c p q) (hq : q.isEarly = true) : p.isEarly = true := by
  rcases h with rfl | hnext | ⟨_, rfl, rfl⟩
  · exact hq
  · cases hnext with
    | begun | failed =>
        rfl
    | furnished | shut | finished | unused =>
        cases hq
  · cases hq

theorem Moves.to_ready (h : Moves c p q) (hp : p ≠ ready) (hq : q = ready) :
    p.isEarly = true := by
  rcases h with rfl | hnext | ⟨_, rfl, _⟩
  · contradiction
  · subst hq
    cases hnext with
    | furnished =>
        rfl
  · rfl

theorem Moves.closed (h : Moves c p q) (hp : p = closed) : q = closed := by
  rcases h with rfl | hnext | ⟨_, rfl, _⟩
  · exact hp
  · subst hp
    cases hnext
  · cases hp

end PoolPhase

/-!
## One call
-/

/-- If the lifecycle lock is to be had, nobody sets the pool up or shuts it down. -/
def ConnectionPool.Unhurried (p : ConnectionPool) : Prop :=
  0 < p.lifecycle.available -> p.phase ≠ .initializing ∧ p.phase ≠ .shuttingDown

structure Advances (p q : ConnectionPool) : Prop where
  phase : PoolPhase.Moves p.config p.phase q.phase
  furnished : p.phase ≠ .ready -> q.phase = .ready ->
    q.idle.length = p.idle.length + p.config.minSize.toNat ∧ q.stats.active = p.stats.active
  maintained : (p.phase = .ready -> p.maintained = true) ->
    q.phase = .ready -> q.maintained = true

variable {p q : ConnectionPool} {now : Instant}

namespace Advances

theorem of_same (hphase : q.phase = p.phase) (hmaintained : q.maintained = p.maintained) :
    Advances p q where
  phase := Or.inl hphase
  furnished := by
    intro hbefore hafter
    rw [hphase] at hafter
    contradiction
  maintained := by
    intro hp hafter
    rw [hphase] at hafter
    rw [hmaintained]
    exact hp hafter

theorem of_serves (h : Serves p q) : Advances p q := of_same h.phase h.maintained

theorem of_next (h : PoolPhase.Next p.phase q.phase) (hq : q.phase ≠ .ready) : Advances p q where
  phase := Or.inr (Or.inl h)
  furnished := fun _ hafter => absurd hafter hq
  maintained := fun _ hafter => absurd hafter hq

theorem of_shuttingDown (hp : p.phase = .shuttingDown)
    (hq : q.phase = .shuttingDown ∨ q.phase = .closed) : Advances p q := by
  have hnot : q.phase ≠ .ready := by
    intro hready
    rcases hq with hq | hq
    · rw [hq] at hready
      cases hready
    · rw [hq] at hready
      cases hready
  refine ⟨?_, fun _ hafter => absurd hafter hnot, fun _ hafter => absurd hafter hnot⟩
  rcases hq with hq | hq
  · exact Or.inl (hq.trans hp.symm)
  · rw [hp, hq]
    exact Or.inr (Or.inl .finished)

theorem of_error (h : Advances (p.recordError now) q) : Advances p q :=
  ⟨h.phase, h.furnished, h.maintained⟩

theorem of_lock {lock : Semaphore} (h : Advances { p with lifecycle := lock } q) :
    Advances p q :=
  ⟨h.phase, h.furnished, h.maintained⟩

end Advances

section Deeds

variable {P : Instant -> Prop} {m : Matter} {matters : List Matter}

theorem Deed.advances (h : Deed P now m p q) (hm : m ≠ .lifecycle) :
    q.phase = p.phase ∧ q.maintained = p.maintained := by
  by_cases hserving : m ∈ Matter.checkingOut .caller
  · have hserves : Serves p q := h.serves hserving
    exact ⟨hserves.phase, hserves.maintained⟩
  · cases h with
    | leave t =>
        rw [leaveSlotQueue_eq]
        exact ⟨rfl, rfl⟩
    | join | collect | unline | closeSlots | drain =>
        exact ⟨rfl, rfl⟩
    | lock | unlock | leaveLock | turn | furnish | tell =>
        exact absurd rfl hm
    | take | release | pick | sweep | evict | reserve | vacate | lend | retire | store | giveBack
    | verdict | error | «open» | hit | wait | exhaust =>
        exact absurd (by decide) hserving

theorem Deeds.advances (h : Deeds P now matters p q) (hlifecycle : .lifecycle ∉ matters) :
    Advances p q := by
  have hsame : q.phase = p.phase ∧ q.maintained = p.maintained := by
    refine h.invariant (I := fun q => q.phase = p.phase ∧ q.maintained = p.maintained) ?_
      ⟨rfl, rfl⟩
    intro q r m hmem hdeed hq
    have hr : r.phase = q.phase ∧ r.maintained = q.maintained := by
      apply hdeed.advances
      rintro rfl
      exact hlifecycle hmem
    exact ⟨hr.1.trans hq.1, hr.2.trans hq.2⟩
  exact .of_same hsame.1 hsame.2

end Deeds

namespace WarmUp

theorem complete_spec (p : ConnectionPool) (now : Instant) (opened : List Connection) :
    (complete p now opened).1.phase = .ready ∧ (complete p now opened).1.maintained = true ∧
      (complete p now opened).1.idle.length = p.idle.length + opened.length ∧
      (complete p now opened).1.stats.active = p.stats.active := by
  unfold complete finish furnish
  rw [releaseLock_eq, foldl_recordCreation]
  refine ⟨rfl, rfl, ?_, rfl⟩
  show (p.idle ++ opened.map _).length = _
  rw [List.length_append, List.length_map]

theorem advances_goOn {opened : List Connection} (hp : p.phase = .initializing)
    (hfew : opened.length ≤ p.config.minSize.toNat) : Advances p (goOn p now opened).1 := by
  unfold goOn
  split
  · exact .of_same rfl rfl
  · rename_i henough
    rcases complete_spec p now opened with ⟨hphase, hmaintained, hidle, hactive⟩
    constructor
    · rw [hphase, hp]
      exact Or.inr (Or.inl .furnished)
    · intro _ _
      refine ⟨?_, hactive⟩
      rw [hidle]
      omega
    · intro _ _
      exact hmaintained

theorem advances_rollBack (hp : p.phase = .initializing) (e : PoolError)
    (opened : List Connection) : Advances p (rollBack p e opened).1 := by
  cases opened with
  | nil =>
      simp only [rollBack, finish]
      rw [releaseLock_eq]
      refine .of_next ?_ ?_
      · rw [hp]
        exact .failed
      · intro hready
        cases hready
  | cons c rest =>
      exact .of_same rfl rfl

/-- Whoever comes to hold the lock begins to set the pool up, unless that is done. -/
theorem advances_enter (hinitializing : p.phase ≠ .initializing)
    (hshutting : p.phase ≠ .shuttingDown) : Advances p (enter p now).1 := by
  have hfinish : Advances p (finish p (.ok ())).1 := by
    unfold finish
    rw [releaseLock_eq]
    exact .of_same rfl rfl
  unfold enter
  split
  · exact hfinish
  · exact hfinish
  · rename_i hphase
    unfold goOn
    split
    · refine .of_next ?_ ?_
      · rw [hphase]
        exact .begun
      · intro hready
        cases hready
    · -- There is nothing to be opened, and the pool is ready at once.
      rename_i hmin
      have hzero : p.config.minSize.toNat = 0 := Nat.eq_zero_of_not_pos hmin
      rcases complete_spec (p.setPhase .initializing) now [] with
        ⟨hready, hmaintained, hidle, hactive⟩
      constructor
      · rw [hready]
        exact Or.inr (Or.inr ⟨UInt64.toNat_inj.mp hzero, hphase, rfl⟩)
      · intro _ _
        refine ⟨?_, hactive⟩
        rw [hidle, hzero]
        rfl
      · intro _ _
        exact hmaintained
  · contradiction
  · contradiction

theorem advances_behind {o : Opening} {r : Reply}
    {progress : Progress Opening (Except PoolError Connection)}
    (hstep : o.step p now r = (q, progress)) {q' : ConnectionPool} (h : Advances q q') :
    Advances p q' := by
  rcases Opening.pool_of_step hstep with rfl | rfl
  · exact h
  · exact .of_error h

theorem advances_start (hp : Unhurried p) : Advances p (start p now).1 := by
  unfold start
  split
  · rename_i lock htaken
    have hheld := Semaphore.available_of_taken htaken
    rcases hp (by omega) with ⟨hinitializing, hshutting⟩
    exact .of_lock (advances_enter hinitializing hshutting)
  · exact .of_same rfl rfl
  · exact .of_same rfl rfl

theorem advances_called (hp : Unhurried p) {t : Ticket}
    (hturn : p.lifecycle.standing t = .promised) :
    Advances p (enter { p with lifecycle := p.lifecycle.collect t } now).1 := by
  have hheld := Semaphore.available_of_promised hturn
  rcases hp (by omega) with ⟨hinitializing, hshutting⟩
  exact .of_lock (advances_enter hinitializing hshutting)

theorem advances_step (hp : Unhurried p) {k : WarmUp} (r : Reply)
    (hwarming : tally warming k.stake ≠ 0 -> p.phase = .initializing)
    (hmissing : k.Unfinished p.config) : Advances p (k.step p now r).1 := by
  have hphase : forall {o : Opening} {q progress}, o.step p now r = (q, progress) ->
      p.phase = .initializing -> q.phase = .initializing := by
    intro o q progress hstep hbefore
    rw [Opening.phase_eq_of_step hstep]
    exact hbefore
  have honward := onward p now k r
  generalize k.step p now r = after at honward ⊢
  cases honward with
  | called hturn =>
      exact advances_called hp hturn
  | patient hwaits | still hunfit =>
      exact .of_same rfl rfl
  | again hstep =>
      exact advances_behind hstep (.of_same rfl rfl)
  | @another opened _ _ q c hstep =>
      refine advances_behind hstep (advances_goOn (hphase hstep (hwarming (by simp [stake]))) ?_)
      rw [List.length_append, Opening.config_eq_of_step hstep]
      exact hmissing
  | failed hstep =>
      exact advances_behind hstep
        (advances_rollBack (hphase hstep (hwarming (by simp [stake]))) _ _)
  | rollBack hclosed =>
      exact advances_rollBack (hwarming (by simp [stake])) _ _

end WarmUp

namespace ShutDown

theorem phase_closeNext (p : ConnectionPool) (failure : Option BackendError)
    (cs : List Connection) :
    (closeNext p failure cs).1.phase = p.phase ∨ (closeNext p failure cs).1.phase = .closed := by
  cases cs with
  | nil =>
      right
      simp only [closeNext, finish]
      rw [releaseLock_eq]
      rfl
  | cons c rest =>
      exact Or.inl rfl

theorem advances_closeNext (hp : p.phase = .shuttingDown) (failure : Option BackendError)
    (cs : List Connection) : Advances p (closeNext p failure cs).1 := by
  have hq := phase_closeNext p failure cs
  rw [hp] at hq
  exact .of_shuttingDown hp hq

theorem advances_drain (hp : p.phase = .shuttingDown) : Advances p (drain p).1 := by
  have hq := phase_closeNext p.closeSlots.takeAllIdle.1 none p.closeSlots.takeAllIdle.2
  have hsame : p.closeSlots.takeAllIdle.1.phase = .shuttingDown := hp
  rw [hsame] at hq
  exact .of_shuttingDown hp hq

theorem advances_enter (hinitializing : p.phase ≠ .initializing)
    (hshutting : p.phase ≠ .shuttingDown) (hmaintained : p.phase = .ready -> p.maintained = true) :
    Advances p (enter p).1 := by
  unfold enter
  split
  · rw [releaseLock_eq]
    exact .of_same rfl rfl
  · rename_i hphase
    simp only [finish]
    rw [releaseLock_eq]
    refine .of_next ?_ ?_
    · rw [hphase]
      exact .unused
    · intro hready
      cases hready
  · contradiction
  · rename_i hphase
    have htold : (p.setPhase .shuttingDown).maintained = true := hmaintained hphase
    rw [if_pos htold]
    refine .of_next ?_ ?_
    · rw [hphase]
      exact .shut
    · intro hready
      cases hready
  · contradiction

theorem advances_start (hp : Unhurried p) (hmaintained : p.phase = .ready -> p.maintained = true) :
    Advances p (start p).1 := by
  unfold start
  split
  · rename_i lock htaken
    have hheld := Semaphore.available_of_taken htaken
    rcases hp (by omega) with ⟨hinitializing, hshutting⟩
    exact .of_lock (advances_enter hinitializing hshutting hmaintained)
  · exact .of_same rfl rfl
  · exact .of_same rfl rfl

theorem advances_called (hp : Unhurried p) (hmaintained : p.phase = .ready -> p.maintained = true)
    {t : Ticket} (hturn : p.lifecycle.standing t = .promised) :
    Advances p (enter { p with lifecycle := p.lifecycle.collect t }).1 := by
  have hheld := Semaphore.available_of_promised hturn
  rcases hp (by omega) with ⟨hinitializing, hshutting⟩
  exact .of_lock (advances_enter hinitializing hshutting hmaintained)

theorem advances_step (hp : Unhurried p) (hmaintained : p.phase = .ready -> p.maintained = true)
    {k : ShutDown} (r : Reply) (hshutting : tally shutting k.stake ≠ 0 -> p.phase = .shuttingDown) :
    Advances p (k.step p r).1 := by
  have honward := onward p k r
  generalize k.step p r = after at honward ⊢
  cases honward with
  | called hturn =>
      exact advances_called hp hmaintained hturn
  | patient hwaits | still hunfit =>
      exact .of_same rfl rfl
  | drain =>
      exact advances_drain (hshutting (by simp [stake]))
  | closed | failed | timedOut =>
      exact advances_closeNext (hshutting (by simp [stake])) _ _

/-!
A request to shut the pool down is over when the pool is closed, and not before.
-/

theorem closed_of_done_closeNext {failure : Option BackendError} {cs : List Connection}
    {a : Except PoolError Unit} (h : (closeNext p failure cs).2 = .done a) :
    (closeNext p failure cs).1.phase = .closed := by
  cases cs with
  | nil =>
      simp only [closeNext, finish]
      rw [releaseLock_eq]
      rfl
  | cons c rest =>
      cases h

theorem closed_of_done_enter {a : Except PoolError Unit} (h : (enter p).2 = .done a) :
    (enter p).1.phase = .closed := by
  unfold enter at h ⊢
  cases hphase : p.phase with
  | closed =>
      simp only []
      rw [releaseLock_eq]
      exact hphase
  | uninitialized =>
      simp only [finish]
      rw [releaseLock_eq]
      rfl
  | initializing | ready | shuttingDown =>
      simp only [hphase] at h ⊢
      split at h
      · cases h
      · rename_i hnot
        rw [if_neg hnot]
        exact closed_of_done_closeNext h

theorem closed_of_done_start {a : Except PoolError Unit} (h : (start p).2 = .done a) :
    (start p).1.phase = .closed := by
  unfold start at h ⊢
  split at h
  · exact closed_of_done_enter h
  · cases h
  · cases h

theorem closed_of_done_step {k : ShutDown} {r : Reply} {a : Except PoolError Unit}
    (h : (k.step p r).2 = .done a) : (k.step p r).1.phase = .closed := by
  have honward := onward p k r
  generalize k.step p r = after at honward h ⊢
  cases honward with
  | called hturn =>
      exact closed_of_done_enter h
  | patient hwaits | still hunfit =>
      cases h
  | drain | closed | failed | timedOut =>
      exact closed_of_done_closeNext h

end ShutDown

theorem PoolCall.advances_start (hp : Unhurried p)
    (hmaintained : p.phase = .ready -> p.maintained = true) (request : PoolRequest) :
    Advances p (start p now request).1 := by
  have hdoes : Does (fun _ => True) now (Matter.of request) (DatedAfter fun _ => True) p
      (start p now request) := does_start p.dated_any trivial request
  cases request with
  | acquire | tryAcquire | checkup =>
      exact hdoes.deeds.advances (by decide)
  | warmUp =>
      rw [start, pool_wrap]
      exact WarmUp.advances_start hp
  | shutDown =>
      rw [start, pool_wrap]
      exact ShutDown.advances_start hp hmaintained

theorem PoolCall.advances_step (hp : Unhurried p)
    (hmaintained : p.phase = .ready -> p.maintained = true) {k : PoolCall} (r : Reply)
    (hwarming : tally warming k.stake ≠ 0 -> p.phase = .initializing)
    (hshutting : tally shutting k.stake ≠ 0 -> p.phase = .shuttingDown)
    (hmissing : k.Unfinished p.config) : Advances p (k.step p now r).1 := by
  have hdoes : Does (fun _ => True) now (Matter.of k.request) (DatedAfter fun _ => True) p
      (k.step p now r) := does_step p.dated_any trivial k.dated_any r
  have hserving : .lifecycle ∉ Matter.of k.request -> Advances p (k.step p now r).1 :=
    hdoes.deeds.advances
  cases k with
  | acquire k =>
      exact hserving (show .lifecycle ∉ Matter.acquiring by decide)
  | tryAcquire k =>
      exact hserving (show .lifecycle ∉ Matter.checkingOut .caller by decide)
  | checkup k =>
      exact hserving (show .lifecycle ∉ Matter.serving by decide)
  | warmUp k =>
      rw [step, pool_wrap]
      exact WarmUp.advances_step hp r hwarming hmissing
  | shutDown k =>
      rw [step, pool_wrap]
      exact ShutDown.advances_step hp hmaintained r hshutting

/-!
## One action
-/

namespace Progress

def answer? {σ α : Type} : Progress σ α -> Option α
  | waiting _ => none
  | done a => some a

theorem eq_done_of_answer {σ α : Type} {k : Progress σ α} {a : α} (h : k.answer? = some a) :
    k = .done a := by
  cases k with
  | waiting s =>
      cases h
  | done b =>
      cases h
      rfl

end Progress

namespace Traffic

variable {c : PoolConfig} {s t : Traffic} {a : Action} {log : Log}

/-- What is true of a pool and of those around it as long as nothing is dropped. -/
structure Ordered (s : Traffic) : Prop where
  settled : s.Settled
  phased : Phased s.pool s.held
  orderly : Orderly s.pool s.held
  maintained : s.pool.phase = .ready -> s.pool.maintained = true

namespace Ordered

theorem ofConfig (c : PoolConfig) : (ofConfig c).Ordered where
  settled := settled_ofConfig c
  phased := Phased.ofConfig c
  orderly := Orderly.ofConfig c
  maintained := fun h => nomatch h

theorem unhurried (h : s.Ordered) : s.pool.Unhurried := by
  intro hfree
  have hlock := h.phased.lock
  have hnobody : tally locks s.held = 0 := by omega
  rcases Phased.alone hnobody with ⟨hwarming, hshutting, _⟩
  constructor
  · intro hphase
    exact h.orderly.initializing hphase hwarming
  · intro hphase
    exact h.orderly.shuttingDown hphase hshutting

theorem advances_proceed (h : s.Ordered) {i : Nat} {x : Party} {r : Reply} {xs : List Party}
    (hx : s.parties[i]? = some x) (hproceed : s.proceed r x = some (p, xs)) :
    Advances s.pool p := by
  rcases exists_held_eq hx with ⟨F, hheld, _⟩
  have hstake : forall w : Token -> Nat, tally w x.stake ≠ 0 -> tally w s.held ≠ 0 := by
    intro w hsome
    rw [hheld, Party.tokens, tally_add, tally_add]
    omega
  have hmissing := h.settled.unfinished x (List.mem_of_getElem? hx)
  rcases proceed_cases hproceed with
    ⟨k, rfl, _, rfl, _⟩ | ⟨n, m, rfl, _, _, rfl, _⟩ | ⟨c, rfl, _, rfl, _⟩ | ⟨c, rfl, _, rfl, _⟩
  · apply PoolCall.advances_step h.unhurried h.maintained r _ _ hmissing
    · intro hwarming
      exact h.phased.warming (hstake _ hwarming)
    · intro hshutting
      exact h.phased.shutting (hstake _ hshutting)
  · exact .of_serves (m.serves_step s.pool r)
  · exact .of_same rfl rfl
  · exact .of_same rfl rfl

theorem advances_step (h : s.Ordered) (hkept : forall i, a ≠ .drop i)
    (hstep : s.step a = some t) : Advances s.pool t.pool := by
  have hadopt : forall (u : Traffic) (p : ConnectionPool), Advances s.pool p ->
      Advances s.pool (u.adopt p).pool := by
    intro u p hp
    rw [adopt_pool]
    exact ⟨hp.phase, hp.furnished, hp.maintained⟩
  rcases step_cases hstep with
    ⟨d, rfl, rfl⟩ | ⟨request, rfl, rfl⟩ | ⟨i, r, x, p, xs, rfl, hx, hproceed, rfl⟩ |
    ⟨i, x, p, rfl, hx, habandon, rfl⟩ | ⟨i, background, l, rfl, hx, rfl⟩ | ⟨i, l, rfl, hx, rfl⟩ |
    ⟨i, n, due, rfl, hx, htold, rfl⟩
  · exact .of_same rfl rfl
  · exact hadopt _ _ (PoolCall.advances_start h.unhurried h.maintained request)
  · exact hadopt _ _ (h.advances_proceed hx hproceed)
  · exact absurd rfl (hkept i)
  · exact hadopt _ _ (.of_serves (.giveBack s.pool l background))
  · exact .of_same rfl rfl
  · exact .of_same rfl rfl

theorem step (h : s.Ordered) (hkept : forall i, a ≠ .drop i) (hstep : s.step a = some t) :
    t.Ordered := by
  have hquiet : Undisturbed [(s, a)] := by
    intro e he i
    rw [List.mem_singleton.mp he]
    exact hkept i
  rcases (Run.act hstep (Run.done t)).keeps_order hquiet h.settled ⟨h.phased, h.orderly⟩ with
    ⟨hphased, horderly⟩
  exact ⟨settled_step h.settled hstep, hphased, horderly,
    (h.advances_step hkept hstep).maintained h.maintained⟩

theorem run (h : Run s log t) (hundisturbed : Undisturbed log) (hs : s.Ordered) : t.Ordered := by
  induction h with
  | done s =>
      exact hs
  | @act s t u a log hstep _ ih =>
      apply ih
      · intro e he
        exact hundisturbed e (List.mem_cons_of_mem _ he)
      · exact hs.step (hundisturbed (s, a) List.mem_cons_self) hstep

/-- Before it is ready, a pool has no idle connections and lends none. -/
theorem nothing_early (h : s.Ordered) (hbalanced : Balanced s.pool s.held)
    (hearly : s.pool.phase.isEarly = true) : s.pool.idle = [] ∧ s.pool.stats.active = 0 := by
  have hphase : s.pool.phase = .uninitialized ∨ s.pool.phase = .initializing := by
    cases hphase : s.pool.phase with
    | uninitialized =>
        exact Or.inl rfl
    | initializing =>
        exact Or.inr rfl
    | ready | shuttingDown | closed =>
        rw [hphase] at hearly
        cases hearly
  rcases h.orderly.unused hphase with ⟨hguests, hidle⟩
  have howned := h.orderly.owned
  -- Who counts as active is a guest or has no owner, and there is neither.
  have hcounted : tally active s.held ≤ tally guests s.held + tally unowned s.held := by
    rw [← tally_add_weights]
    apply tally_le_of_le
    intro x
    cases x with
    | queued | slot u | lent e | forgotten e | retired e f | raw e f | lock u | checking =>
        simp
  rw [hbalanced.active]
  exact ⟨hidle, by omega⟩

/-- When a pool becomes ready, nothing counts but the connections it was set up with. -/
theorem furnished (h : s.Ordered) (hbefore : Balanced s.pool s.held)
    (hafter : Balanced t.pool t.held) (hadvances : Advances s.pool t.pool)
    (hnot : s.pool.phase ≠ .ready) (hready : t.pool.phase = .ready) :
    t.pool.idle.length = s.pool.config.minSize.toNat ∧
      t.pool.stats.idle = s.pool.config.minSize.toNat ∧
      t.pool.stats.total = s.pool.config.minSize.toNat ∧ t.pool.stats.active = 0 := by
  rcases h.nothing_early hbefore (hadvances.phase.to_ready hnot hready) with ⟨hidle, hactive⟩
  rcases hadvances.furnished hnot hready with ⟨hlength, hsame⟩
  rw [hidle, List.length_nil, Nat.zero_add] at hlength
  rw [hactive] at hsame
  refine ⟨hlength, ?_, ?_, hsame⟩
  · rw [hafter.idle, hlength]
  · rw [hafter.total, hsame, hlength, Nat.zero_add]

end Ordered

def becomesReady (e : Traffic × Action) : Bool :=
  !e.1.pool.isReady && (e.1.step e.2).any fun u => u.pool.isReady

theorem becomesReady_iff (hstep : s.step a = some t) :
    becomesReady (s, a) = true <-> s.pool.phase ≠ .ready ∧ t.pool.phase = .ready := by
  simp [becomesReady, hstep, isReady]

/-- A pool becomes ready once at most, and only if it was not ready yet. -/
theorem Ordered.countP_becomesReady (h : Run s log t) (hundisturbed : Undisturbed log)
    (hs : s.Ordered) : log.countP becomesReady ≤ s.pool.phase.isEarly.toNat := by
  -- A pool that has been ready is not early any more, and it never is again.
  induction h with
  | done s =>
      exact Nat.zero_le _
  | @act s t u a log hstep _ ih =>
      have hkept : forall i, a ≠ .drop i := hundisturbed (s, a) List.mem_cons_self
      have hrest : Undisturbed log := fun e he => hundisturbed e (List.mem_cons_of_mem _ he)
      have hmoves := (hs.advances_step hkept hstep).phase
      have hlater := ih hrest (hs.step hkept hstep)
      have hearly : t.pool.phase.isEarly.toNat ≤ s.pool.phase.isEarly.toNat := by
        cases ht : t.pool.phase.isEarly with
        | true =>
            rw [hmoves.early ht]
        | false =>
            exact Nat.zero_le _
      rw [List.countP_cons]
      by_cases hbecomes : becomesReady (s, a) = true
      · rcases (becomesReady_iff hstep).mp hbecomes with ⟨hbefore, hafter⟩
        rw [hafter] at hlater
        rw [if_pos hbecomes, hmoves.to_ready hbefore hafter]
        exact Nat.succ_le_succ hlater
      · rw [if_neg hbecomes]
        omega

theorem Ordered.closed_for_good (h : Run s log t) (hundisturbed : Undisturbed log) (hs : s.Ordered)
    (hclosed : s.pool.phase = .closed) : t.pool.phase = .closed := by
  induction h with
  | done s =>
      exact hclosed
  | @act s t u a log hstep _ ih =>
      have hkept : forall i, a ≠ .drop i := hundisturbed (s, a) List.mem_cons_self
      apply ih (fun e he => hundisturbed e (List.mem_cons_of_mem _ he)) (hs.step hkept hstep)
      exact (hs.advances_step hkept hstep).phase.closed hclosed

def shutDownAnswer? (s : Traffic) : Action -> Option (Except PoolError Unit)
  | .call .shutDown => (ShutDown.start s.pool).2.answer?
  | .reply i r =>
      match s.parties[i]? with
      | some (.caller (.shutDown k)) => (k.step s.pool r).2.answer?
      | _ => none
  | _ => none

theorem closed_of_shutDownAnswer (hstep : s.step a = some t)
    (hanswer : (s.shutDownAnswer? a).isSome = true) : t.pool.phase = .closed := by
  rcases step_cases hstep with
    ⟨d, rfl, rfl⟩ | ⟨request, rfl, rfl⟩ | ⟨i, r, x, p, xs, rfl, hx, hproceed, rfl⟩ |
    ⟨i, x, p, rfl, hx, habandon, rfl⟩ | ⟨i, background, l, rfl, hx, rfl⟩ | ⟨i, l, rfl, hx, rfl⟩ |
    ⟨i, n, due, rfl, hx, htold, rfl⟩
  · cases hanswer
  · cases request with
    | shutDown =>
        rcases Option.isSome_iff_exists.mp hanswer with ⟨answer, hdone⟩
        rw [adopt_pool, PoolCall.start, PoolCall.pool_wrap]
        exact ShutDown.closed_of_done_start (Progress.eq_done_of_answer hdone)
    | acquire | tryAcquire | checkup | warmUp =>
        cases hanswer
  · rw [adopt_pool]
    simp only [shutDownAnswer?, hx] at hanswer
    split at hanswer
    · rename_i k hk
      cases hk
      rcases Option.isSome_iff_exists.mp hanswer with ⟨answer, hdone⟩
      rcases proceed_cases hproceed with
        ⟨k, hk, _, rfl, _⟩ | ⟨n, m, hm, _⟩ | ⟨c, hc, _⟩ | ⟨c, hc, _⟩
      · cases hk
        rw [PoolCall.step, PoolCall.pool_wrap]
        exact ShutDown.closed_of_done_step (Progress.eq_done_of_answer hdone)
      · cases hm
      · cases hc
      · cases hc
    · cases hanswer
  · cases hanswer
  · cases hanswer
  · cases hanswer
  · cases hanswer

/-- Who comes for a connection while the pool is not ready is turned away at once. -/
theorem turned_away (hs : s.Settled) (hready : s.pool.phase ≠ .ready) {request : PoolRequest}
    (hrequest : request = .acquire ∨ request = .tryAcquire) :
    PoolCall.start s.pool s.now request
        = (s.pool, .done (.lent (.error (.notInitialized s.pool.name)))) ∧
      s.step (.call request) = some s := by
  have hstart : PoolCall.start s.pool s.now request
      = (s.pool, .done (.lent (.error (.notInitialized s.pool.name)))) := by
    have hnot : (!s.pool.isReady) = true := by
      simpa [isReady] using hready
    rcases hrequest with rfl | rfl
    · simp only [PoolCall.start, Acquire.start, hnot, if_true]
      rfl
    · simp only [PoolCall.start, Checkout.start, hnot, if_true]
      rfl
  refine ⟨hstart, ?_⟩
  simp only [Traffic.step, hstart, Party.ofProgress, List.append_nil, adopt, hs.outbox,
    List.foldl_nil]
  have hsame : { s.pool with outbox := [] } = s.pool := by
    rw [← hs.outbox]
  rw [hsame]

theorem nobody_stands {held : List Ticket} (h : Lined s.pool.slots held)
    (hclosed : s.pool.slots.closed = true) :
    s.pool.slots.queue = [] ∧ forall ticket, s.pool.slots.standing ticket = .closed := by
  refine ⟨h.turnedAway hclosed, ?_⟩
  intro ticket
  unfold Semaphore.standing
  rw [if_pos hclosed]

theorem Run.ordered_of_mem (h : Run (ofConfig c) log t) (hundisturbed : Undisturbed log)
    {e : Traffic × Action} (he : e ∈ log) :
    exists before later, Run (ofConfig c) before e.1 ∧ e.1.Ordered ∧ Run e.1 (e :: later) t ∧
      Undisturbed (e :: later) := by
  rcases h.split he with ⟨before, later, u, hlog, hbefore, hstep, hlater⟩
  refine ⟨before, later, hbefore, ?_, Run.act hstep hlater, ?_⟩
  · apply Ordered.run hbefore _ (Ordered.ofConfig c)
    intro x hx
    apply hundisturbed x
    rw [hlog]
    exact List.mem_append_left _ hx
  · intro x hx
    apply hundisturbed x
    rw [hlog]
    exact List.mem_append_right _ hx

/-- As long as nothing is dropped, the phase of a pool goes through its moves one by one.  The
pool becomes ready once at most, and then its idle connections are as many as its least size
and are all that counts.  A closed pool stays closed.  When a request to shut it down is over
nobody is in line any more, and as long as the pool is not ready whoever comes for a
connection is turned away at once. -/
theorem lifecycle_takes_its_course (h : Run (ofConfig c) log t)
    (hundisturbed : Undisturbed log) :
    (forall e, e ∈ log -> forall u, e.1.step e.2 = some u ->
        PoolPhase.Moves c e.1.pool.phase u.pool.phase ∧
          (e.1.pool.phase ≠ .ready -> u.pool.phase = .ready ->
            u.pool.idle.length = c.minSize.toNat ∧ u.pool.stats.idle = c.minSize.toNat ∧
              u.pool.stats.total = c.minSize.toNat ∧ u.pool.stats.active = 0) ∧
          ((e.1.shutDownAnswer? e.2).isSome = true ->
            u.pool.phase = .closed ∧ u.pool.slots.queue = [] ∧
              forall ticket, u.pool.slots.standing ticket = .closed)) ∧
      log.countP becomesReady ≤ 1 ∧
      (forall e, e ∈ log -> e.1.pool.phase = .closed -> t.pool.phase = .closed) ∧
      (t.pool.phase ≠ .ready -> forall request, request = .acquire ∨ request = .tryAcquire ->
        PoolCall.start t.pool t.now request
            = (t.pool, .done (.lent (.error (.notInitialized c.name)))) ∧
          t.step (.call request) = some t) := by
  refine ⟨?_, ?_, ?_, ?_⟩
  · intro e he u hstep
    rcases h.ordered_of_mem hundisturbed he with ⟨before, later, hbefore, hordered, _, hquiet⟩
    have hadvances := hordered.advances_step (hquiet e List.mem_cons_self) hstep
    have hafter : Run (ofConfig c) (before ++ [e]) u := hbefore.append (Run.act hstep (Run.done u))
    have hconfig : e.1.pool.config = c := hbefore.config_eq (settled_ofConfig c)
    refine ⟨?_, ?_, ?_⟩
    · rw [← hconfig]
      exact hadvances.phase
    · intro hnot hready
      rw [← hconfig]
      exact hordered.furnished hbefore.balanced hafter.balanced hadvances hnot hready
    · intro hanswer
      have hclosed := closed_of_shutDownAnswer hstep hanswer
      exact ⟨hclosed, nobody_stands hafter.lined (hafter.phased.closed hclosed)⟩
  · exact Ordered.countP_becomesReady h hundisturbed (Ordered.ofConfig c)
  · intro e he hclosed
    rcases h.ordered_of_mem hundisturbed he with ⟨before, later, _, hordered, hlater, hquiet⟩
    exact Ordered.closed_for_good hlater hquiet hordered hclosed
  · intro hready request hrequest
    have haway := turned_away (h.settled (settled_ofConfig c)) hready hrequest
    rw [ConnectionPool.name, h.config_eq (settled_ofConfig c)] at haway
    exact haway

/-- Two requests to set the pool up meet, and the first one fails.  Then two callers are
served and a third one gets in line, and the pool is shut down. -/
def setUpTwiceAndShutDown : List Action :=
  [.call .warmUp, .call .warmUp, .reply 0 .timedOut, .reply 0 .stirred, .reply 0 .timedOut,
    .reply 0 .stirred, .reply 0 .timedOut, .reply 0 .stirred, .reply 0 (.created (.ok ⟨0⟩)),
    .reply 0 (.created (.ok ⟨1⟩)), .call .acquire, .call .acquire, .call .acquire,
    .reply 1 (.validated true), .reply 2 (.validated true), .call .shutDown, .retire 0,
    .reply 3 .stirred]

/-- The pool is closed in the end, and the third caller, who has not looked yet, is in line no
more. -/
theorem lifecycle_takes_its_course_once :
    exists log t, Run (ofConfig pairConfig) log t ∧
      log.map (fun e => e.2) = setUpTwiceAndShutDown ∧ t.pool.phase = .closed ∧
      t.parties.countP Party.isQueued = 1 ∧ t.pool.slots.queue = [] ∧
      log.countP becomesReady ≤ 1 ∧ t.step (.call .acquire) = some t := by
  have hrun : ((ofConfig pairConfig).run setUpTwiceAndShutDown).any
      (fun t => t.pool.phase = .closed ∧ t.parties.countP Party.isQueued = 1 ∧
        t.pool.slots.queue = []) = true := by
    decide +kernel
  rcases exists_run_of_any hrun with ⟨log, t, h, hactions, hend⟩
  rcases of_decide_eq_true hend with ⟨hclosed, hqueued, hline⟩
  have hquiet : Undisturbed log := undisturbed_of_all hactions rfl
  have hready : t.pool.phase ≠ .ready := by
    rw [hclosed]
    intro hready
    cases hready
  rcases lifecycle_takes_its_course h hquiet with ⟨_, honce, _, haway⟩
  exact ⟨log, t, h, hactions, hclosed, hqueued, hline, honce,
    (haway hready .acquire (Or.inl rfl)).2⟩

end Traffic
end PoolHealth
