import PoolHealth.Proofs.Pool.Closing
import PoolHealth.Proofs.Pool.Crew
import PoolHealth.Proofs.Pool.Serving

/-!
# Pools in seclusion

Before a pool is found by its name nobody knows it but the one who brings it up.  It is asked
to set itself up, and perhaps to shut itself down again when that is done.  All the rest is its
own work: maintenance and what it has to do in the background.

Such a pool goes through a few stages, which follow from what it was asked and what it has
answered.  If setting it up failed, or when it is shut down, nobody is left but those who close
connections, and when they are done every connection that was ever opened is closed.
-/

namespace PoolHealth

open ConnectionPool

namespace Action

def isOwn : Action -> Bool
  | elapse _ | reply _ _ | retire _ => true
  | call _ | drop _ | giveBack _ _ | markBroken _ => false

end Action

def Progress.switched? {σ : Type} : Progress σ PoolAnswer -> Option (Except PoolError Unit)
  | .done (.switched r) => some r
  | .done (.lent _) | .done (.checked _) | .waiting _ => none

namespace Traffic

/-- The answer of a request to set the pool up or to shut it down that is over with the
action. -/
def switched? (s : Traffic) : Action -> Option (Except PoolError Unit)
  | .call r => (PoolCall.start s.pool s.now r).2.switched?
  | .reply i r =>
      match s.parties[i]? with
      | some (.caller k) => (k.step s.pool s.now r).2.switched?
      | _ => none
  | _ => none

end Traffic

/-!
## Setting up and shutting down, one step at a time
-/

namespace ConnectionPool

/-- The pool when somebody has taken the lock and begins to set it up. -/
def begun (p : ConnectionPool) : ConnectionPool :=
  setPhase { p with lifecycle := { Semaphore.lock with free := 0 } } .initializing

def leaving (p : ConnectionPool) : ConnectionPool :=
  emit
    { p with
      lifecycle := { Semaphore.lock with free := 0 }
      phase := .shuttingDown
      maintained := false } .maintenanceStopping

end ConnectionPool

variable {p : ConnectionPool} {now : Instant}

namespace WarmUp

def isQueued : WarmUp -> Bool
  | queued _ => true
  | opening _ _ | rollingBack _ _ _ => false

/-- What can come of a request to set the pool up, once the lock is held: it waits again, or
the pool is ready, or it is as it was before. -/
inductive Outcome (q : ConnectionPool) (now : Instant) :
    ConnectionPool × Progress WarmUp (Except PoolError Unit) -> Prop where
  | more {k : WarmUp} (hk : k.isQueued = false) : Outcome q now (q, .waiting k)
  | ready (opened : List Connection) :
      Outcome q now ((furnish q now opened).releaseLock, .done (.ok ()))
  | failed (e : PoolError) :
      Outcome q now ((q.setPhase .uninitialized).releaseLock, .done (.error e))

theorem start_of_uninitialized (hlock : p.lifecycle = Semaphore.lock)
    (hphase : p.phase = .uninitialized) (now : Instant) :
    start p now = goOn p.begun now [] := by
  unfold start
  rw [hlock]
  show enter { p with lifecycle := { Semaphore.lock with free := 0 } } now = _
  unfold enter
  simp only [hphase]
  rfl

theorem outcome_goOn (p : ConnectionPool) (now : Instant) (opened : List Connection) :
    Outcome p now (goOn p now opened) := by
  unfold goOn
  split
  · exact .more rfl
  · exact .ready opened

theorem outcome_rollBack (p : ConnectionPool) (now : Instant) (e : PoolError)
    (cs : List Connection) : Outcome p now (rollBack p e cs) := by
  cases cs with
  | nil =>
      exact .failed e
  | cons c rest =>
      exact .more rfl

theorem outcome_step {k : WarmUp} (hk : k.isQueued = false) (p : ConnectionPool) (now : Instant)
    (r : Reply) :
    exists q, (q = p ∨ q = p.recordError now) ∧ Outcome q now (k.step p now r) := by
  have honward := onward p now k r
  generalize k.step p now r = after at honward ⊢
  cases honward with
  | called hturn | patient hwaits =>
      cases hk
  | again hstep =>
      exact ⟨_, Opening.pool_of_step hstep, .more rfl⟩
  | another hstep =>
      exact ⟨_, Opening.pool_of_step hstep, outcome_goOn _ now _⟩
  | failed hstep =>
      exact ⟨_, Opening.pool_of_step hstep, outcome_rollBack _ now _ _⟩
  | rollBack hclosed =>
      exact ⟨p, Or.inl rfl, outcome_rollBack p now _ _⟩
  | still hunfit =>
      exact ⟨p, Or.inl rfl, .more rfl⟩

end WarmUp

namespace ShutDown

inductive Outcome (q : ConnectionPool) :
    ConnectionPool × Progress ShutDown (Except PoolError Unit) -> Prop where
  | more (c : Connection) (rest : List Connection) (failure : Option BackendError) :
      Outcome q (q, .waiting (closing c rest failure))
  | closed (r : Except PoolError Unit) :
      Outcome q ((q.setPhase .closed).releaseLock, .done r)

theorem start_of_ready (hlock : p.lifecycle = Semaphore.lock) (hphase : p.phase = .ready)
    (hmaintained : p.maintained = true) :
    start p = (p.leaving, .waiting .awaitingMaintenance) := by
  unfold start
  rw [hlock]
  show enter { p with lifecycle := { Semaphore.lock with free := 0 } } = _
  unfold enter
  simp only [hphase, setPhase, hmaintained, if_true]
  rfl

theorem outcome_closeNext (p : ConnectionPool) (failure : Option BackendError)
    (cs : List Connection) : Outcome p (closeNext p failure cs) := by
  cases cs with
  | nil =>
      exact .closed _
  | cons c rest =>
      exact .more c rest failure

theorem outcome_step (p : ConnectionPool) (c : Connection) (rest : List Connection)
    (failure : Option BackendError) (r : Reply) :
    Outcome p ((closing c rest failure).step p r) := by
  cases r with
  | closed result =>
      cases result with
      | ok _ | error e =>
          exact outcome_closeNext p _ rest
  | timedOut =>
      exact outcome_closeNext p _ rest
  | stirred | created result | validated ok =>
      exact .more c rest failure

end ShutDown

/-!
## The stages
-/

namespace Traffic

variable {s t : Traffic} {a : Action} {asked : List PoolRequest}
  {answers : List (Except PoolError Unit)} {phase : PoolPhase}

/-- Nobody has a connection of the pool, and the calls under way are those; each of them holds
the lifecycle lock. -/
structure Secluded (s : Traffic) (calls : List PoolCall) (phase : PoolPhase) : Prop where
  callers : s.callers = calls
  loans : s.loans = []
  lock : s.pool.lifecycle = { Semaphore.lock with free := 1 - calls.length }
  phase : s.pool.phase = phase
  outbox : s.pool.outbox = []

structure Still (s : Traffic) : Prop where
  rounds : s.rounds = []
  idle : s.pool.idle = []

/-- How far a pool has come, if it was asked that much and gave those answers. -/
inductive Stage (s : Traffic) : List PoolRequest -> List (Except PoolError Unit) -> Prop where
  | fresh (h : s.Secluded [] .uninitialized) (hstill : s.Still) : Stage s [] []
  | warming {k : WarmUp} (hk : k.isQueued = false) (h : s.Secluded [.warmUp k] .initializing)
      (hstill : s.Still) : Stage s [.warmUp] []
  | failed {e : PoolError} (h : s.Secluded [] .uninitialized) (hstill : s.Still) :
      Stage s [.warmUp] [.error e]
  | ready (h : s.Secluded [] .ready) (hmaintained : s.pool.maintained = true)
      (hrounds : forall n, n ∈ s.rounds -> n = s.round) : Stage s [.warmUp] [.ok ()]
  | ending (h : s.Secluded [.shutDown .awaitingMaintenance] .shuttingDown)
      (hrounds : forall n, n ∈ s.rounds -> n + 1 = s.round) :
      Stage s [.warmUp, .shutDown] [.ok ()]
  | draining {c : Connection} {rest : List Connection} {failure : Option BackendError}
      (h : s.Secluded [.shutDown (.closing c rest failure)] .shuttingDown) (hstill : s.Still) :
      Stage s [.warmUp, .shutDown] [.ok ()]
  | closed {r : Except PoolError Unit} (h : s.Secluded [] .closed) (hstill : s.Still) :
      Stage s [.warmUp, .shutDown] [.ok (), r]

theorem stage_ofConfig (c : PoolConfig) : Stage (ofConfig c) [] [] :=
  .fresh ⟨rfl, rfl, rfl, rfl, rfl⟩ ⟨rfl, rfl⟩

/-!
## What happens on the side
-/

structure Beside (s t : Traffic) : Prop where
  callers : t.callers = s.callers
  loans : t.loans = s.loans
  lifecycle : t.pool.lifecycle = s.pool.lifecycle
  phase : t.pool.phase = s.pool.phase
  maintained : t.pool.maintained = s.pool.maintained
  outbox : s.pool.outbox = [] -> t.pool.outbox = []
  round : t.round = s.round
  rounds : forall n, n ∈ t.rounds -> n ∈ s.rounds
  idle : s.rounds = [] -> t.pool.idle = s.pool.idle

theorem Secluded.beside {calls : List PoolCall} (h : s.Secluded calls phase) (hst : Beside s t) :
    t.Secluded calls phase where
  callers := hst.callers.trans h.callers
  loans := hst.loans.trans h.loans
  lock := hst.lifecycle.trans h.lock
  phase := hst.phase.trans h.phase
  outbox := hst.outbox h.outbox

theorem Still.beside (h : s.Still) (hst : Beside s t) : t.Still where
  rounds := by
    rw [List.eq_nil_iff_forall_not_mem]
    intro n hn
    have hbefore := hst.rounds n hn
    rw [h.rounds] at hbefore
    cases hbefore
  idle := (hst.idle h.rounds).trans h.idle

theorem Stage.beside (h : Stage s asked answers) (hst : Beside s t) : Stage t asked answers := by
  cases h with
  | fresh h hstill =>
      exact .fresh (h.beside hst) (hstill.beside hst)
  | warming hk h hstill =>
      exact .warming hk (h.beside hst) (hstill.beside hst)
  | failed h hstill =>
      exact .failed (h.beside hst) (hstill.beside hst)
  | ready h hmaintained hrounds =>
      refine .ready (h.beside hst) (hst.maintained.trans hmaintained) ?_
      intro n hn
      rw [hst.round]
      exact hrounds n (hst.rounds n hn)
  | ending h hrounds =>
      refine .ending (h.beside hst) ?_
      intro n hn
      rw [hst.round]
      exact hrounds n (hst.rounds n hn)
  | draining h hstill =>
      exact .draining (h.beside hst) (hstill.beside hst)
  | closed h hstill =>
      exact .closed (h.beside hst) (hstill.beside hst)

theorem beside_closing {u : Traffic} {i : Nat} {x : Party} {xs : List Party} {q : ConnectionPool}
    (hx : s.parties[i]? = some x) (hclosing : x.isClosing = true)
    (hclosings : forall y, y ∈ xs -> y.isClosing = true) (hu : u.parties = (s.replace i xs).parties)
    (hround : u.round = s.round) (hq : q = s.pool) (hquiet : s.pool.outbox = []) :
    Beside s (u.adopt q) := by
  subst hq
  have hnone : forall {β : Type} (f : Party -> Option β),
      (forall y : Party, y.isClosing = true -> f y = none) ->
        u.parties.filterMap f = s.parties.filterMap f := by
    intro β f hf
    rw [hu]
    apply filterMap_replace f hx
    rw [hf x hclosing, Option.toList_none, List.filterMap_eq_nil_iff]
    intro y hy
    exact hf y (hclosings y hy)
  have hsignals : s.pool.signals = [] := signals_of_outbox hquiet
  have hrounds : u.rounds = s.rounds :=
    hnone _ fun y hy => (Party.nothing_else_of_isClosing hy).2.1
  rcases adopt_rounds_of_quiet u hsignals with ⟨hturns, hturn⟩
  constructor
  · rw [adopt_callers]
    exact hnone _ fun y hy => (Party.nothing_else_of_isClosing hy).1
  · rw [adopt_loans]
    exact hnone _ fun y hy => (Party.nothing_else_of_isClosing hy).2.2
  · rw [adopt_pool]
  · rw [adopt_pool]
  · rw [adopt_pool]
  · intro _
    rw [adopt_pool]
  · rw [hturn, hround]
  · rw [hturns, hrounds]
    exact fun _ => id
  · intro _
    rw [adopt_pool]

theorem beside_maintenance {u : Traffic} {i n : Nat} {m : Maintenance} {r : Reply}
    (hx : s.parties[i]? = some (.maintainer n m))
    (hu : u.parties
      = (s.replace i [.maintainer n (m.step s.pool s.now r).2]).parties)
    (hround : u.round = s.round) (hquiet : s.pool.outbox = []) :
    Beside s (u.adopt (m.step s.pool s.now r).1) := by
  have hserves : Serves s.pool (m.step s.pool s.now r).1 := m.serves_step s.pool r
  have hsignals : (m.step s.pool s.now r).1.signals = [] := by
    rw [Maintenance.signals_step]
    exact signals_of_outbox hquiet
  have hsame : forall {β : Type} (f : Party -> Option β),
      (forall k, f (.maintainer n k) = f (.maintainer n m)) ->
        u.parties.filterMap f = s.parties.filterMap f := by
    intro β f hf
    rw [hu]
    apply filterMap_replace f hx
    rw [List.filterMap_cons, hf]
    cases f (.maintainer n m) with
    | none | some y =>
        rfl
  have hrounds : u.rounds = s.rounds := hsame Party.round? fun _ => rfl
  rcases adopt_rounds_of_quiet u hsignals with ⟨hturns, hturn⟩
  constructor
  · rw [adopt_callers]
    exact hsame Party.call? fun _ => rfl
  · rw [adopt_loans]
    exact hsame Party.loan? fun _ => rfl
  · rw [adopt_pool]
    exact hserves.lifecycle
  · rw [adopt_pool]
    exact hserves.phase
  · rw [adopt_pool]
    exact hserves.maintained
  · intro _
    rw [adopt_pool]
  · rw [hturn, hround]
  · rw [hturns, hrounds]
    exact fun _ => id
  · intro hnobody
    have hsome : n ∈ s.rounds := mem_filterMap_of_getElem? Party.round? hx rfl
    rw [hnobody] at hsome
    cases hsome

theorem beside_retire {i n : Nat} {m : Maintenance}
    (hx : s.parties[i]? = some (.maintainer n m)) : Beside s (s.replace i []) := by
  have hsame : forall {β : Type} (f : Party -> Option β), f (.maintainer n m) = none ->
      (s.replace i []).parties.filterMap f = s.parties.filterMap f := by
    intro β f hf
    apply filterMap_replace f hx
    rw [hf]
    rfl
  refine ⟨hsame _ rfl, hsame _ rfl, rfl, rfl, rfl, id, rfl, ?_, fun _ => rfl⟩
  intro k hk
  rcases exists_filterMap_eq Party.round? hx with ⟨before, after, hbefore, hafter⟩
  unfold rounds at hk ⊢
  rw [hafter] at hk
  rw [hbefore]
  simp only [List.filterMap_nil, List.append_nil, List.mem_append] at hk ⊢
  rcases hk with hk | hk
  · exact Or.inl (Or.inl hk)
  · exact Or.inr hk

/-!
## What happens to the calls
-/

theorem secluded_adopt {u : Traffic} {q : ConnectionPool} {calls : List PoolCall}
    (hcalls : u.callers = calls) (hloans : u.loans = [])
    (hlock : q.lifecycle = { Semaphore.lock with free := 1 - calls.length })
    (hphase : q.phase = phase) : (u.adopt q).Secluded calls phase where
  callers := by rw [adopt_callers, hcalls]
  loans := by rw [adopt_loans, hloans]
  lock := by rw [adopt_pool, hlock]
  phase := by rw [adopt_pool, hphase]
  outbox := by rw [adopt_pool]

theorem still_adopt {u : Traffic} {q : ConnectionPool} (hrounds : u.rounds = [])
    (hsignals : q.signals = []) (hidle : q.idle = []) : (u.adopt q).Still where
  rounds := by rw [(adopt_rounds_of_quiet u hsignals).1, hrounds]
  idle := by rw [adopt_pool, hidle]

theorem lifecycle_releaseLock {q : ConnectionPool}
    (h : q.lifecycle = { Semaphore.lock with free := 0 }) :
    q.releaseLock.lifecycle = Semaphore.lock := by
  rw [releaseLock_eq, h]
  rfl

theorem stage_of_warmUp {u : Traffic} {q : ConnectionPool} {now : Instant}
    {result : ConnectionPool × Progress WarmUp (Except PoolError Unit)}
    (h : WarmUp.Outcome q now result) (hlock : q.lifecycle = { Semaphore.lock with free := 0 })
    (hphase : q.phase = .initializing) (hsignals : q.signals = []) (hidle : q.idle = [])
    (hrounds : u.rounds = []) (hloans : u.loans = [])
    (hcallers : u.callers = (Party.ofProgress
      (PoolCall.wrap PoolCall.warmUp .switched result).2).filterMap Party.call?) :
    Stage (u.adopt result.1) [.warmUp]
      (PoolCall.wrap PoolCall.warmUp .switched result).2.switched?.toList := by
  cases h with
  | more hk =>
      exact .warming hk (secluded_adopt hcallers hloans hlock hphase)
        (still_adopt hrounds hsignals hidle)
  | ready opened =>
      have hfurnished : (WarmUp.furnish q now opened).lifecycle = q.lifecycle ∧
          (WarmUp.furnish q now opened).signals = [.maintenanceStarted] := by
        unfold WarmUp.furnish
        rw [foldl_recordCreation]
        refine ⟨rfl, ?_⟩
        show (q.outbox ++ [PoolEvent.maintenanceStarted]).filter PoolEvent.isSignal = _
        rw [List.filter_append]
        show q.signals ++ [PoolEvent.maintenanceStarted] = _
        rw [hsignals]
        rfl
      have hstarted :
          (WarmUp.furnish q now opened).releaseLock.signals = [.maintenanceStarted] := by
        rw [signals_releaseLock, hfurnished.2]
      rcases adopt_rounds_of_started u hstarted with ⟨hturns, hround⟩
      rw [hrounds] at hturns
      refine .ready ?_ ?_ ?_
      · apply secluded_adopt hcallers hloans
        · exact lifecycle_releaseLock (hfurnished.1.trans hlock)
        · rw [releaseLock_eq]
          rfl
      · rw [adopt_pool, releaseLock_eq]
        rfl
      · intro n hn
        rw [hturns] at hn
        rw [hround]
        exact List.mem_singleton.mp hn
  | failed e =>
      refine .failed ?_ ?_
      · apply secluded_adopt hcallers hloans
        · exact lifecycle_releaseLock (q := q.setPhase .uninitialized) hlock
        · rw [releaseLock_eq]
          rfl
      · apply still_adopt hrounds
        · rw [signals_releaseLock]
          exact hsignals
        · rw [releaseLock_eq]
          exact hidle

theorem stage_of_shutDown {u : Traffic} {q : ConnectionPool}
    {result : ConnectionPool × Progress ShutDown (Except PoolError Unit)}
    (h : ShutDown.Outcome q result) (hlock : q.lifecycle = { Semaphore.lock with free := 0 })
    (hphase : q.phase = .shuttingDown) (hsignals : q.signals = []) (hidle : q.idle = [])
    (hrounds : u.rounds = []) (hloans : u.loans = [])
    (hcallers : u.callers = (Party.ofProgress
      (PoolCall.wrap PoolCall.shutDown .switched result).2).filterMap Party.call?) :
    Stage (u.adopt result.1) [.warmUp, .shutDown]
      (.ok () :: (PoolCall.wrap PoolCall.shutDown .switched result).2.switched?.toList) := by
  cases h with
  | more c rest failure =>
      exact .draining (secluded_adopt hcallers hloans hlock hphase)
        (still_adopt hrounds hsignals hidle)
  | closed r =>
      refine .closed ?_ ?_
      · apply secluded_adopt hcallers hloans
        · exact lifecycle_releaseLock (q := q.setPhase .closed) hlock
        · rw [releaseLock_eq]
          rfl
      · apply still_adopt hrounds
        · rw [signals_releaseLock]
          exact hsignals
        · rw [releaseLock_eq]
          exact hidle

theorem parts_of_caller {u : Traffic} {i : Nat} {k k' : PoolCall} {xs : List Party}
    (h : s.Secluded [k'] phase) (hx : s.parties[i]? = some (.caller k))
    (hu : u.parties = (s.replace i xs).parties)
    (hxs : xs.filterMap Party.round? = [] ∧ xs.filterMap Party.loan? = []) :
    k = k' ∧ u.callers = xs.filterMap Party.call? ∧ u.rounds = s.rounds ∧ u.loans = [] := by
  rcases filterMap_replace_of_only Party.call? xs hx rfl h.callers with ⟨rfl, hcallers⟩
  refine ⟨rfl, ?_, ?_, ?_⟩
  · unfold callers
    rw [hu, hcallers]
  · unfold rounds
    rw [hu]
    exact filterMap_replace Party.round? hx hxs.1
  · have hloans := h.loans
    unfold loans at hloans ⊢
    rw [hu, ← hloans]
    exact filterMap_replace Party.loan? hx hxs.2

theorem roles_of_switch (k : Progress PoolCall PoolAnswer)
    (h : forall a, k = .done a -> exists r, a = .switched r) :
    (Party.ofProgress k).filterMap Party.round? = [] ∧
      (Party.ofProgress k).filterMap Party.loan? = [] := by
  cases k with
  | waiting k =>
      exact ⟨rfl, rfl⟩
  | done a =>
      rcases h a rfl with ⟨r, rfl⟩
      exact ⟨rfl, rfl⟩

theorem switched_of_wrap {σ : Type} {call : σ -> PoolCall}
    (result : ConnectionPool × Progress σ (Except PoolError Unit)) :
    forall a, (PoolCall.wrap call PoolAnswer.switched result).2 = .done a ->
      exists r, a = .switched r := by
  intro a h
  rcases result with ⟨q, k⟩
  cases k with
  | waiting k =>
      cases h
  | done r =>
      cases h
      exact ⟨r, rfl⟩

/-!
## One step
-/

theorem Stage.warmUp_step {k k' : WarmUp} {i : Nat} {r : Reply} {u : Traffic}
    (h : s.Secluded [.warmUp k'] .initializing) (hk : k'.isQueued = false) (hstill : s.Still)
    (hx : s.parties[i]? = some (.caller (.warmUp k)))
    (hu : u.parties = (s.replace i
      (Party.ofProgress ((PoolCall.warmUp k).step s.pool s.now r).2)).parties) :
    Stage (u.adopt ((PoolCall.warmUp k).step s.pool s.now r).1) [.warmUp]
      ((PoolCall.warmUp k).step s.pool s.now r).2.switched?.toList := by
  rw [PoolCall.step] at hu ⊢
  rw [PoolCall.pool_wrap]
  rcases parts_of_caller h hx hu (roles_of_switch _ (switched_of_wrap _)) with
    ⟨hsame, hcallers, hrounds, hloans⟩
  cases hsame
  rcases WarmUp.outcome_step hk s.pool s.now r with ⟨q, hq, houtcome⟩
  have hsignals : s.pool.signals = [] := signals_of_outbox h.outbox
  rw [hstill.rounds] at hrounds
  rcases hq with rfl | rfl
  · exact stage_of_warmUp houtcome h.lock h.phase hsignals hstill.idle hrounds hloans hcallers
  · refine stage_of_warmUp houtcome h.lock h.phase ?_ hstill.idle hrounds hloans hcallers
    rw [signals_recordError, hsignals]

theorem Stage.shutDown_step {k k' : ShutDown} {i : Nat} {r : Reply} {u : Traffic}
    (h : s.Secluded [.shutDown k'] .shuttingDown) (hrounds : s.rounds = [])
    (hk : k' = .awaitingMaintenance ∨
      (exists c rest failure, k' = .closing c rest failure) ∧ s.pool.idle = [])
    (hx : s.parties[i]? = some (.caller (.shutDown k)))
    (hu : u.parties = (s.replace i
      (Party.ofProgress ((PoolCall.shutDown k).step s.pool s.now r).2)).parties) :
    Stage (u.adopt ((PoolCall.shutDown k).step s.pool s.now r).1) [.warmUp, .shutDown]
      (.ok () :: ((PoolCall.shutDown k).step s.pool s.now r).2.switched?.toList) := by
  rw [PoolCall.step] at hu ⊢
  rw [PoolCall.pool_wrap]
  rcases parts_of_caller h hx hu (roles_of_switch _ (switched_of_wrap _)) with
    ⟨hsame, hcallers, hrounds', hloans⟩
  cases hsame
  have hsignals : s.pool.signals = [] := signals_of_outbox h.outbox
  rw [hrounds] at hrounds'
  rcases hk with rfl | ⟨⟨c, rest, failure, rfl⟩, hidle⟩
  · -- Nobody gets a slot any more, and everything that is idle is taken.
    have hdrained : s.pool.closeSlots.takeAllIdle.1.signals = [] := by
      refine (signals_append (p := s.pool) rfl ?_).trans hsignals
      intro e he
      rcases List.mem_map.mp he with ⟨ticket, _, rfl⟩
      rfl
    exact stage_of_shutDown (ShutDown.outcome_closeNext _ none _) h.lock h.phase hdrained rfl
      hrounds' hloans hcallers
  · exact stage_of_shutDown (ShutDown.outcome_step s.pool c rest failure r) h.lock h.phase hsignals
      hidle hrounds' hloans hcallers

theorem rounds_eq_nil_of_canEnd (hrounds : forall n, n ∈ s.rounds -> n + 1 = s.round)
    (h : s.canEnd .maintenanceEnd = true) : s.rounds = [] := by
  rw [List.eq_nil_iff_forall_not_mem]
  intro n hn
  rcases List.mem_filterMap.mp hn with ⟨x, hx, hround⟩
  have hend := List.all_eq_true.mp h x hx
  cases x with
  | maintainer m k =>
      cases hround
      simp only [hrounds n hn, bne_self_eq_false, Bool.false_eq_true] at hend
  | caller k | borrower l | closer c | finisher c =>
      cases hround

theorem Stage.outbox (h : Stage s asked answers) : s.pool.outbox = [] := by
  cases h with
  | fresh h _ | warming _ h _ | failed h _ | ready h _ _ | ending h _ | draining h _
  | closed h _ =>
      exact h.outbox

theorem Stage.loans (h : Stage s asked answers) : s.loans = [] := by
  cases h with
  | fresh h _ | warming _ h _ | failed h _ | ready h _ _ | ending h _ | draining h _
  | closed h _ =>
      exact h.loans

theorem Stage.caller_step {k : PoolCall} {i : Nat} {r : Reply} {q : ConnectionPool}
    {xs : List Party} {u : Traffic} (h : Stage s asked answers)
    (hx : s.parties[i]? = some (.caller k)) (hproceed : s.proceed r (.caller k) = some (q, xs))
    (hu : u.parties = (s.replace i xs).parties) :
    Stage (u.adopt q) asked (answers ++ (k.step s.pool s.now r).2.switched?.toList) := by
  have hcaller : k ∈ s.callers := mem_filterMap_of_getElem? Party.call? hx rfl
  have hallows : s.allows (k.await s.pool.config) r = true ∧
      q = (k.step s.pool s.now r).1 ∧ xs = Party.ofProgress (k.step s.pool s.now r).2 := by
    simp only [proceed] at hproceed
    split at hproceed
    · rename_i hallows
      cases hproceed
      exact ⟨hallows, rfl, rfl⟩
    · cases hproceed
  rcases hallows with ⟨hallows, rfl, rfl⟩
  cases h with
  | fresh h _ | failed h _ | ready h _ _ | closed h _ =>
      rw [h.callers] at hcaller
      cases hcaller
  | warming hk h hstill =>
      rw [h.callers] at hcaller
      cases List.mem_singleton.mp hcaller
      exact Stage.warmUp_step h hk hstill hx hu
  | ending h hrounds =>
      rw [h.callers] at hcaller
      cases List.mem_singleton.mp hcaller
      unfold allows at hallows
      rw [Bool.and_eq_true, Bool.and_eq_true] at hallows
      exact Stage.shutDown_step h (rounds_eq_nil_of_canEnd hrounds hallows.1.2) (Or.inl rfl) hx hu
  | draining h hstill =>
      rw [h.callers] at hcaller
      cases List.mem_singleton.mp hcaller
      exact Stage.shutDown_step h hstill.rounds (Or.inr ⟨⟨_, _, _, rfl⟩, hstill.idle⟩) hx hu

/-- Whatever a secluded pool does on its own, its stage follows from what it has answered. -/
theorem Stage.step (h : Stage s asked answers) (hown : a.isOwn = true) (hstep : s.step a = some t) :
    Stage t asked (answers ++ (s.switched? a).toList) := by
  have hquiet := h.outbox
  have hsame : Beside s t -> s.switched? a = none ->
      Stage t asked (answers ++ (s.switched? a).toList) := by
    intro hbeside hnone
    rw [hnone, Option.toList_none, List.append_nil]
    exact h.beside hbeside
  rcases step_cases hstep with
    ⟨d, rfl, rfl⟩ | ⟨request, rfl, rfl⟩ | ⟨i, r, x, q, xs, rfl, hx, hproceed, rfl⟩ |
    ⟨i, x, q, rfl, hx, habandon, rfl⟩ | ⟨i, background, l, rfl, hx, rfl⟩ | ⟨i, l, rfl, hx, rfl⟩ |
    ⟨i, n, due, rfl, hx, htold, rfl⟩
  · exact hsame ⟨rfl, rfl, rfl, rfl, rfl, id, rfl, fun _ => id, fun _ => rfl⟩ rfl
  · cases hown
  · cases x with
    | caller k =>
        have hcaller := h.caller_step hx hproceed
          (u := { s.replace i xs with
            opened := s.opened ++ r.arrivals
            remains := s.remains + (Party.caller k).underway }) rfl
        simpa only [switched?, hx] using hcaller
    | maintainer n m =>
        apply hsame
        · rcases proceed_cases hproceed with
            ⟨k, hk, _⟩ | ⟨n', m', hm, _, _, rfl, rfl⟩ | ⟨c, hc, _⟩ | ⟨c, hc, _⟩
          · cases hk
          · cases hm
            exact beside_maintenance hx rfl rfl hquiet
          · cases hc
          · cases hc
        · simp only [switched?, hx]
    | closer c | finisher c =>
        apply hsame
        · rcases proceed_cases hproceed with
            ⟨k, hk, _⟩ | ⟨n', m', hm, _⟩ | ⟨c', hc, _, rfl, rfl⟩ | ⟨c', hc, _, rfl, rfl⟩
          · cases hk
          · cases hm
          · refine beside_closing hx rfl ?_ rfl rfl rfl hquiet
            intro y hy
            rw [List.mem_singleton.mp hy]
            rfl
          · refine beside_closing hx rfl ?_ rfl rfl rfl hquiet
            intro y hy
            cases hy
        · simp only [switched?, hx]
    | borrower l =>
        cases hproceed
  · cases hown
  · cases hown
  · cases hown
  · exact hsame (beside_retire hx) rfl

theorem step_call_warmUp (hstep : s.step (.call .warmUp) = some t) :
    t = adopt
      { s with
        parties := s.parties ++ Party.ofProgress
          (PoolCall.wrap PoolCall.warmUp PoolAnswer.switched (WarmUp.start s.pool s.now)).2 }
      (WarmUp.start s.pool s.now).1 := by
  rw [← PoolCall.pool_wrap PoolCall.warmUp PoolAnswer.switched]
  exact (Option.some.inj hstep).symm

theorem step_call_shutDown (hstep : s.step (.call .shutDown) = some t) :
    t = adopt
      { s with
        parties := s.parties ++ Party.ofProgress
          (PoolCall.wrap PoolCall.shutDown PoolAnswer.switched (ShutDown.start s.pool)).2 }
      (ShutDown.start s.pool).1 := by
  rw [← PoolCall.pool_wrap PoolCall.shutDown PoolAnswer.switched]
  exact (Option.some.inj hstep).symm

theorem Stage.call_warmUp (h : Stage s [] []) (hstep : s.step (.call .warmUp) = some t) :
    Stage t [.warmUp] (s.switched? (.call .warmUp)).toList := by
  cases h with
  | fresh h hstill =>
      have hstart := WarmUp.start_of_uninitialized h.lock h.phase s.now
      have hsignals : s.pool.signals = [] := signals_of_outbox h.outbox
      have houtcome := WarmUp.outcome_goOn s.pool.begun s.now []
      rw [← hstart] at houtcome
      rw [step_call_warmUp hstep]
      refine stage_of_warmUp houtcome rfl rfl hsignals hstill.idle ?_ ?_ ?_
      all_goals
        simp only [rounds, Traffic.loans, callers, List.filterMap_append]
      · rw [(roles_of_switch _ (switched_of_wrap _)).1]
        exact (List.append_nil _).trans hstill.rounds
      · rw [(roles_of_switch _ (switched_of_wrap _)).2]
        exact (List.append_nil _).trans h.loans
      · have hnobody := h.callers
        unfold callers at hnobody
        rw [hnobody, List.nil_append]

theorem Stage.call_shutDown (h : Stage s [.warmUp] [.ok ()])
    (hstep : s.step (.call .shutDown) = some t) :
    Stage t [.warmUp, .shutDown] (.ok () :: (s.switched? (.call .shutDown)).toList) := by
  cases h with
  | ready h hmaintained hrounds =>
      have hstart := ShutDown.start_of_ready h.lock h.phase hmaintained
      have hsignals : (ShutDown.start s.pool).1.signals = [.maintenanceStopping] := by
        rw [hstart]
        show (s.pool.outbox ++ [PoolEvent.maintenanceStopping]).filter PoolEvent.isSignal = _
        rw [h.outbox]
        rfl
      have hanswer : s.switched? (.call .shutDown) = none := by
        show (PoolCall.wrap PoolCall.shutDown PoolAnswer.switched _).2.switched? = _
        rw [hstart]
        rfl
      rw [hanswer, step_call_shutDown hstep]
      rcases adopt_rounds_of_stopping _ hsignals with ⟨hturns, hround⟩
      rw [hstart] at hturns hround ⊢
      refine .ending ?_ ?_
      · refine secluded_adopt ?_ ?_ rfl rfl
        · have hnobody := h.callers
          unfold callers at hnobody ⊢
          rw [List.filterMap_append, hnobody]
          rfl
        · have hnobody := h.loans
          unfold Traffic.loans at hnobody ⊢
          rw [List.filterMap_append, hnobody]
          rfl
      · intro n hn
        have hbefore : n ∈ s.rounds := by
          have hmem := hturns ▸ hn
          simpa [rounds, Party.round?, Party.ofProgress, PoolCall.wrap] using hmem
        rw [hround, hrounds n hbefore]

/-!
## When a secluded pool is done with
-/

/-- Whether a pool that was asked that much and gave those answers has been done with: it was
never set up, that failed, or it was shut down again. -/
def IsDone (asked : List PoolRequest) (answers : List (Except PoolError Unit)) : Prop :=
  asked = [] ∨ (exists e, answers = [.error e]) ∨ answers.length = 2

theorem Stage.still_of_isDone (h : Stage s asked answers) (hdone : IsDone asked answers) :
    s.callers = [] ∧ s.Still := by
  cases h with
  | fresh h hstill | failed h hstill | closed h hstill =>
      exact ⟨h.callers, hstill⟩
  | warming hk h hstill | ready h hmaintained hrounds | ending h hrounds | draining h hstill =>
      rcases hdone with hnone | ⟨e, he⟩ | htwo
      · cases hnone
      · cases he
      · cases htwo

theorem parties_eq_nil (hcallers : s.callers = []) (hrounds : s.rounds = []) (hloans : s.loans = [])
    (hclosings : forall x, x ∈ s.parties -> x.isClosing = false) : s.parties = [] := by
  rw [List.eq_nil_iff_forall_not_mem]
  intro x hx
  cases x with
  | caller k =>
      have hmem : k ∈ s.callers := List.mem_filterMap.mpr ⟨_, hx, rfl⟩
      rw [hcallers] at hmem
      cases hmem
  | maintainer n m =>
      have hmem : n ∈ s.rounds := List.mem_filterMap.mpr ⟨_, hx, rfl⟩
      rw [hrounds] at hmem
      cases hmem
  | borrower l =>
      have hmem : l ∈ s.loans := List.mem_filterMap.mpr ⟨_, hx, rfl⟩
      rw [hloans] at hmem
      cases hmem
  | closer c | finisher c =>
      cases hclosings _ hx

/-- Whether an action leaves a pool in seclusion: its own, or a request of its only user. -/
def staysSecluded : Action -> Bool
  | .call .warmUp | .call .shutDown => true
  | a => a.isOwn

/-- If the pool has been done with and no connection is on its way to be closed, then every
connection that was ever opened was closed once. -/
theorem Run.closed_once_of_isDone {c : PoolConfig} {log : Log} (h : Run (ofConfig c) log t)
    (hsecluded : forall e, e ∈ log -> staysSecluded e.2 = true) (hstage : Stage t asked answers)
    (hdone : IsDone asked answers) (hclosings : forall x, x ∈ t.parties -> x.isClosing = false) :
    t.parties = [] ∧ t.pool.idle = [] ∧
      forall d, d ∈ t.opened -> (log.countP fun e => e.1.closes d e.2) = 1 := by
  rcases hstage.still_of_isDone hdone with ⟨hcallers, hstill⟩
  have hnobody := parties_eq_nil hcallers hstill.rounds hstage.loans hclosings
  refine ⟨hnobody, hstill.idle, ?_⟩
  intro d hd
  have hundisturbed : Undisturbed log := by
    intro e he i hdrop
    have hstays := hsecluded e he
    rw [hdrop] at hstays
    cases hstays
  have hstranded : (log.countP fun e => e.1.strands d e.2) = 0 := by
    rw [List.countP_eq_zero]
    rintro ⟨u, a⟩ he hstrands
    have hstays := hsecluded _ he
    cases a with
    | giveBack i background =>
        cases hstays
    | elapse e | call request | reply i r | drop i | markBroken i | retire i =>
        cases hstrands
  have hidle : t.pool.idleCount d = 0 := by
    unfold idleCount
    rw [hstill.idle]
    rfl
  have honce := h.closed_once hundisturbed hnobody hd
  omega

end Traffic
end PoolHealth
