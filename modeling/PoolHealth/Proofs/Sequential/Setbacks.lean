import PoolHealth.Proofs.Pool.Unused
import PoolHealth.Proofs.Sequential.HealthCheck
import PoolHealth.Proofs.Sequential.SettingUp

/-!
# Setting up in vain

The connections of a pool that is set up do not belong to it before all of them are open.  If one
cannot be opened those before it are closed again, and the pool does not even know that there were
any.  Nothing stands in the way of another try.

Those who set a pool up do not look at what is idle in it.  There is nothing as a rule, but a
request to shut the pool down may have been dropped half-way, and then they come on top of what is
left.
-/

namespace PoolHealth

open ConnectionPool Token

variable {env : Surroundings} {c : PoolConfig} {j : Journal} {n : Nat}
variable {p : ConnectionPool} {opened : List Connection}

namespace Surroundings

def opensAll (env : Surroundings) (c : PoolConfig) (n : Nat) (j : Journal) : Bool :=
  (env.openings c n j).all fun i => (env.openNew c i).2.isOk

def arrivals (env : Surroundings) (c : PoolConfig) (n : Nat) (j : Journal) : List Connection :=
  (env.openings c n j).filterMap fun i => (env.openNew c i).2.toOption

def callCount (env : Surroundings) (c : PoolConfig) (n : Nat) (j : Journal) : Nat :=
  ((env.openings c n j).map (env.attemptCount c)).sum

theorem requests_openNew (env : Surroundings) (c : PoolConfig) (j : Journal) :
    (env.openNew c j).1.requests.map (·.2) =
      j.requests.map (·.2) ++ List.replicate (env.attemptCount c j) .create := by
  have hpos := (env.attemptCount_spec c j).1
  have hrequests := env.requests_nthAttempt c j (env.attemptCount c j - 1)
  rw [Nat.sub_add_cancel hpos] at hrequests
  rw [Opening.openNew_eq]
  show (env.lastAttempt c j).ended.requests.map _ = _
  unfold lastAttempt
  rw [hrequests, List.map_append, List.map_map]
  simp [Function.comp_def]

/-- Every attempt of an opening fails, or it is the one that goes well. -/
theorem attemptCount_eq (env : Surroundings) (c : PoolConfig) (j : Journal) :
    env.attemptCount c j =
      (env.failures c j).length + (env.openNew c j).2.toOption.toList.length := by
  have hpos := (env.attemptCount_spec c j).1
  rw [failures_eq, Opening.openNew_eq, List.length_append, List.length_map, List.length_range]
  unfold Attempt.outcome
  cases hgood : (env.lastAttempt c j).isGood with
  | true =>
      rcases Attempt.exists_result_of_good (c := c) hgood with ⟨d, hresult⟩
      simp only [hresult, Except.mapError, Except.toOption, Option.toList, List.length_singleton,
        if_true, List.length_nil]
      omega
  | false =>
      rcases Attempt.exists_result_of_not_good (c := c) hgood with ⟨e, hresult⟩
      simp only [hresult, Except.mapError, Except.toOption, Option.toList, List.length_singleton,
        List.length_nil, Bool.false_eq_true, if_false]
      omega

theorem callCount_eq :
    env.callCount c n j = (env.allFailures c n j).length + (env.arrivals c n j).length := by
  unfold callCount allFailures arrivals
  induction env.openings c n j with
  | nil =>
      rfl
  | cons i rest ih =>
      have hone := env.attemptCount_eq c i
      rw [List.map_cons, List.sum_cons, ih, hone, List.flatMap_cons, List.length_append,
        List.filterMap_cons]
      cases hresult : (env.openNew c i).2.toOption with
      | none | some d =>
          simp only [Option.toList, List.length_cons, List.length_nil]
          omega

theorem requests_closeAll (ds : List Connection) :
    (env.closeAll c j ds).requests.map (·.2) =
      j.requests.map (·.2) ++ ds.map BackendRequest.close := by
  induction ds generalizing j with
  | nil =>
      exact (List.append_nil _).symm
  | cons d rest ih =>
      have hclose : (env.close c j d).requests = j.requests ++ [(j.now, .close d)] := by
        unfold close limited
        split
        · rfl
        · rfl
      show (env.closeAll c (env.close c j d) rest).requests.map _ = _
      rw [ih, hclose]
      simp

end Surroundings

namespace Reference

theorem requests_warm (env : Surroundings) (c : PoolConfig) (n : Nat)
    (opened : List Connection) (j : Journal) :
    (warm env c n opened j).1.requests.map (·.2) =
      j.requests.map (·.2) ++ List.replicate (env.callCount c n j) .create ++
        if env.opensAll c n j then []
        else (opened ++ env.arrivals c n j).map BackendRequest.close := by
  induction n generalizing opened j with
  | zero =>
      simp [warm, Surroundings.callCount, Surroundings.opensAll, Surroundings.openings]
  | succ n ih =>
      have hasked := env.requests_openNew c j
      unfold warm Surroundings.callCount Surroundings.opensAll Surroundings.arrivals
        Surroundings.openings
      cases hnew : env.openNew c j with
      | mk k result =>
          rw [hnew] at hasked
          cases result with
          | ok d =>
              have hrest := ih (opened ++ [d]) k
              simp only [] at hasked ⊢
              rw [hrest, hasked]
              simp [hnew, Surroundings.callCount, Surroundings.opensAll, Surroundings.arrivals,
                List.replicate_append_replicate, Except.isOk, Except.toBool, Except.toOption]
          | error e =>
              rw [Surroundings.requests_closeAll, hasked]
              simp [hnew, Except.isOk, Except.toBool, Except.toOption]

theorem warm_eq_ok (h : env.opensAll c n j = true) :
    (warm env c n opened j).2 = .ok (opened ++ env.arrivals c n j) := by
  induction n generalizing opened j with
  | zero =>
      exact congrArg Except.ok (List.append_nil opened).symm
  | succ n ih =>
      unfold Surroundings.opensAll Surroundings.openings at h
      unfold warm Surroundings.arrivals Surroundings.openings
      cases hnew : env.openNew c j with
      | mk k result =>
          rw [hnew] at h
          cases result with
          | ok d =>
              have hrest : env.opensAll c n k = true := (Bool.and_eq_true_iff.mp h).2
              simp only []
              rw [ih hrest]
              simp [hnew, Surroundings.arrivals, Except.toOption]
          | error e =>
              simp [hnew, Except.isOk, Except.toBool] at h

/-- All openings go well but the last one. -/
theorem exists_failure (h : env.opensAll c n j = false) :
    exists before last e,
      env.openings c n j = before ++ [last] ∧ before.length < n ∧
        (forall i, i ∈ before -> (env.openNew c i).2.isOk = true) ∧
        (env.openNew c last).2 = .error e ∧
        forall opened, (warm env c n opened j).2 = .error e := by
  induction n generalizing j with
  | zero =>
      cases h
  | succ n ih =>
      unfold Surroundings.opensAll Surroundings.openings at h
      unfold Surroundings.openings
      cases hnew : env.openNew c j with
      | mk k result =>
          rw [hnew] at h
          cases result with
          | ok d =>
              have hrest : env.opensAll c n k = false := by
                simpa [hnew, Surroundings.opensAll, Except.isOk, Except.toBool] using h
              rcases ih hrest with ⟨before, last, e, heq, hlength, hgood, hlast, hwarm⟩
              refine ⟨j :: before, last, e, congrArg (List.cons j) heq, Nat.succ_lt_succ hlength,
                ?_, hlast, ?_⟩
              · intro i hi
                rcases List.mem_cons.mp hi with rfl | hi
                · rw [hnew]
                  rfl
                · exact hgood i hi
              · intro opened
                unfold warm
                rw [hnew]
                exact hwarm _
          | error e =>
              refine ⟨[], j, e, rfl, Nat.succ_pos n, ?_, congrArg Prod.snd hnew, ?_⟩
              · intro i hi
                cases hi
              · intro opened
                unfold warm
                rw [hnew]

end Reference

namespace WarmUp

inductive Begins (p : ConnectionPool) (now : Instant) :
    Semaphore -> ConnectionPool × Progress WarmUp (Except PoolError Unit) -> Prop where
  | atOnce {lock : Semaphore} (h : p.lifecycle.tryTake = .taken lock) :
      Begins p now lock (start p now)
  | inTurn {ticket : Ticket} (r : Reply) (h : p.lifecycle.standing ticket = .promised) :
      Begins p now (p.lifecycle.collect ticket) (step p now (queued ticket) r)

variable {now : Instant} {lock : Semaphore}
variable {x : ConnectionPool × Progress WarmUp (Except PoolError Unit)}

theorem Begins.eq_enter (h : Begins p now lock x) : x = enter { p with lifecycle := lock } now := by
  cases h with
  | atOnce htaken =>
      unfold start
      rw [htaken]
  | inTurn r hturn =>
      exact if_pos hturn

def begun (p : ConnectionPool) (lock : Semaphore) : ConnectionPool :=
  { p with lifecycle := lock, phase := .initializing }

theorem drives_begun (env : Surroundings) (hphase : p.phase = .uninitialized)
    (h : Begins p j.now lock x) :
    machine.Drives env j x (Reference.warm env p.config p.config.minSize.toNat [] j).1
      (conclusion ((begun p lock).recordErrors (env.allFailures p.config p.config.minSize.toNat j))
        (Reference.warm env p.config p.config.minSize.toNat [] j).1.now
        (Reference.warm env p.config p.config.minSize.toNat [] j).2) := by
  have henter : x = goOn (begun p lock) j.now [] := by
    rw [h.eq_enter]
    unfold enter
    rw [hphase]
    rfl
  rw [henter]
  exact drives_goOn (p := begun p lock) env rfl p.config.minSize.toNat [] (Nat.zero_add _) j

/-- The pool after it could not be set up.  It is as before, but for the errors of these times and
for the lock, which has been passed on. -/
def afterFailures (p : ConnectionPool) (lock : Semaphore) (times : List Instant) : ConnectionPool :=
  { p with
    stats := { p.stats with errors := p.stats.errors + times.length }
    errors := times.foldl ErrorWindow.record p.errors
    lifecycle := lock.release
    outbox := p.outbox ++ List.replicate times.length p.errorReport ++
      (lock.successor?.map PoolEvent.lockPassed).toList }

theorem conclusion_error (hphase : p.phase = .uninitialized) (times : List Instant)
    (e : PoolError) :
    conclusion ((begun p lock).recordErrors times) now (.error e) =
      (afterFailures p lock times, .error e) := by
  unfold conclusion
  rw [recordErrors_eq, releaseLock_eq]
  unfold afterFailures
  rw [← hphase]
  rfl

/-- The pool is ready, and the connections it was set up with are idle behind those it had. -/
structure Furnished (p : ConnectionPool) (ds : List Connection) (q : ConnectionPool) : Prop where
  phase : q.phase = .ready
  idle : q.idle.map (·.connection) = p.idle.map (·.connection) ++ ds
  length : q.idle.length = p.idle.length + p.config.minSize.toNat
  counted : q.stats.idle = q.idle.length
  active : q.stats.active = p.stats.active
  total : q.stats.total = p.stats.total + p.config.minSize.toNat

theorem furnished_conclusion (times : List Instant) {ds : List Connection}
    (hlength : ds.length = p.config.minSize.toNat) :
    Furnished p ds (conclusion ((begun p lock).recordErrors times) now (.ok ds)).1 := by
  show Furnished p ds (furnish ((begun p lock).recordErrors times) now ds).releaseLock
  rw [releaseLock_eq]
  unfold furnish
  rw [foldl_recordCreation, recordErrors_eq]
  constructor
  · rfl
  · show (p.idle ++ ds.map _).map _ = _
    simp [Function.comp_def]
  · show (p.idle ++ ds.map _).length = _
    rw [List.length_append, List.length_map, hlength]
  · rfl
  · rfl
  · show p.stats.total + ds.length = _
    rw [hlength]

def CanBeSetUp (p : ConnectionPool) : Prop :=
  forall (env : Surroundings) (j : Journal) (lock : Semaphore)
    (x : ConnectionPool × Progress WarmUp (Except PoolError Unit)),
    Begins p j.now lock x -> env.opensAll p.config p.config.minSize.toNat j = true ->
      exists k q, machine.Drives env j x k (q, .ok ()) ∧
        Furnished p (env.arrivals p.config p.config.minSize.toNat j) q

theorem canBeSetUp (hphase : p.phase = .uninitialized) : CanBeSetUp p := by
  intro env j lock x hbegins hopens
  have hdrives := drives_begun env hphase hbegins
  cases hwarm : Reference.warm env p.config p.config.minSize.toNat [] j with
  | mk k result =>
      have hresult : result = .ok (env.arrivals p.config p.config.minSize.toNat j) :=
        (congrArg Prod.snd hwarm).symm.trans (Reference.warm_eq_ok hopens)
      subst hresult
      rw [hwarm] at hdrives
      have hlength := length_warm hwarm
      rw [List.length_nil, Nat.zero_add] at hlength
      exact ⟨k, _, hdrives, furnished_conclusion _ hlength⟩

/-- What has become of a request to set the pool up that failed. -/
structure SetBack (env : Surroundings) (j : Journal) (p : ConnectionPool) (lock : Semaphore)
    (k : Journal) (q : ConnectionPool) (e : PoolError) : Prop where
  /-- One of the connections could not be opened. -/
  failed : exists before last,
    env.openings p.config p.config.minSize.toNat j = before ++ [last] ∧
      before.length < p.config.minSize.toNat ∧
      (forall i, i ∈ before -> (env.openNew p.config i).2.isOk = true) ∧
      (env.openNew p.config last).2 = .error e
  /-- All that were opened before it are closed again in the same order, each of them once. -/
  requests : k.requests.map (·.2) =
    j.requests.map (·.2) ++
      List.replicate (env.callCount p.config p.config.minSize.toNat j) .create ++
        (env.arrivals p.config p.config.minSize.toNat j).map .close
  /-- An attempt that is made fails, or a connection comes of it. -/
  attempts : env.callCount p.config p.config.minSize.toNat j =
    (env.allFailures p.config p.config.minSize.toNat j).length +
      (env.arrivals p.config p.config.minSize.toNat j).length
  phase : q.phase = .uninitialized
  /-- Nothing but the failed attempts has left a trace in the pool. -/
  pool : q = afterFailures p lock (env.allFailures p.config p.config.minSize.toNat j)
  unused : Unused p -> Unused q
  again : CanBeSetUp q

theorem setBack (hphase : p.phase = .uninitialized) (hbegins : Begins p j.now lock x)
    (hopens : env.opensAll p.config p.config.minSize.toNat j = false) :
    exists k q e, machine.Drives env j x k (q, .error e) ∧ SetBack env j p lock k q e := by
  have hdrives := drives_begun env hphase hbegins
  rcases Reference.exists_failure hopens with
    ⟨before, last, e, hopenings, hlength, hgood, hlast, hwarm⟩
  have hrequests := Reference.requests_warm env p.config p.config.minSize.toNat [] j
  rw [hopens] at hrequests
  rw [hwarm [], conclusion_error hphase] at hdrives
  refine ⟨_, _, e, hdrives, ⟨before, last, hopenings, hlength, hgood, hlast⟩, hrequests,
    Surroundings.callCount_eq, hphase, rfl, fun hp => hp.of_same rfl, canBeSetUp hphase⟩

end WarmUp

namespace Traffic

variable {t : Traffic} {log : Log} {lock : Semaphore}
variable {x : ConnectionPool × Progress WarmUp (Except PoolError Unit)}

/-- If a pool that is not set up cannot be set up, it is as before: whatever was opened has been
closed again, nothing but the failures has been counted, and the next one can set it up.  Then it
has just its least number of idle connections if and only if there were none to begin with, and
there were none unless a request to shut the pool down was dropped. -/
theorem Run.setUp_leaves_no_trace (h : Run (ofConfig c) log t)
    (hphase : t.pool.phase = .uninitialized) (env : Surroundings)
    (hbegins : WarmUp.Begins t.pool j.now lock x) :
    ((forall e, e ∈ log -> breaksOff e = false) -> Unused t.pool) ∧
      exists k q r,
        WarmUp.machine.Drives env j x k (q, r) ∧
          (forall l y, WarmUp.machine.Drives env j x l y -> l = k ∧ y = (q, r)) ∧
          ((exists e, r = .error e) <-> env.opensAll c c.minSize.toNat j = false) ∧
          (forall e, r = .error e ->
            WarmUp.SetBack env j t.pool lock k q e ∧ (q.idle = [] <-> t.pool.idle = [])) ∧
          (r = .ok () ->
            WarmUp.Furnished t.pool (env.arrivals c c.minSize.toNat j) q ∧
              (q.idle.length = c.minSize.toNat <-> t.pool.idle = [])) := by
  have hconfig : t.pool.config = c := h.config_eq (settled_ofConfig c)
  have hearly : t.pool.phase.isEarly = true := by
    rw [hphase]
    rfl
  refine ⟨fun hnot => h.unused hnot hearly, ?_⟩
  rw [← hconfig]
  cases hopens : env.opensAll t.pool.config t.pool.config.minSize.toNat j with
  | true =>
      rcases WarmUp.canBeSetUp hphase env j lock x hbegins hopens with ⟨k, q, hdrives, hfurnished⟩
      have hleast : q.idle.length = t.pool.config.minSize.toNat <-> t.pool.idle = [] := by
        rw [hfurnished.length, ← List.length_eq_zero_iff]
        omega
      refine ⟨k, q, .ok (), hdrives, fun l y hy => hdrives.unique hy, ?_, nofun,
        fun _ => ⟨hfurnished, hleast⟩⟩
      exact ⟨nofun, nofun⟩
  | false =>
      rcases WarmUp.setBack hphase hbegins hopens with ⟨k, q, e, hdrives, hback⟩
      refine ⟨k, q, .error e, hdrives, fun l y hy => hdrives.unique hy, ?_, ?_, nofun⟩
      · exact ⟨fun _ => rfl, fun _ => ⟨e, rfl⟩⟩
      · intro e' heq
        cases heq
        refine ⟨hback, ?_⟩
        rw [hback.pool]
        rfl

/-- A backend that opens one connection, slowly, and will not even close it. -/
def stubbornBackend : Surroundings where
  creation := fun j =>
    if j.requests = [] then (.ofSecs 1, .ok ⟨0⟩) else (.ofSecs 40, .ok ⟨j.requests.length⟩)
  validation := fun _ _ => (.zero, true)
  closure := fun _ _ => (.zero, .error (.close "refused"))
  alarm := id

/-- The second connection takes too long three times.  The first one is closed, and a minute later
the pool is set up. -/
theorem setUp_leaves_no_trace_of_one :
    (ofConfig pairConfig).pool.phase = .uninitialized ∧
      exists k q e,
        WarmUp.machine.Drives stubbornBackend {} (WarmUp.start (.ofConfig pairConfig) ⟨0⟩) k
          (q, .error e) ∧
        q.phase = .uninitialized ∧ q.idle = [] ∧ q.stats.errors = 3 ∧
        k.requests.map (·.2) = [.create, .create, .create, .create, .close ⟨0⟩] ∧
        exists l q',
          WarmUp.machine.Drives swiftBackend ⟨⟨60000000000⟩, []⟩
            (WarmUp.start q ⟨60000000000⟩) l (q', .ok ()) ∧
          q'.phase = .ready ∧ q'.stats.idle = 2 := by
  have hbegins : WarmUp.Begins (ofConfig pairConfig).pool (({} : Journal).now) WarmUp.taken
      (WarmUp.start (.ofConfig pairConfig) ⟨0⟩) := .atOnce rfl
  have hfails : stubbornBackend.opensAll pairConfig pairConfig.minSize.toNat {} = false := by
    decide +kernel
  rcases Run.setUp_leaves_no_trace (.done (ofConfig pairConfig)) rfl stubbornBackend hbegins with
    ⟨hunused, k, q, r, hdrives, _, hfailed, hback, _⟩
  rcases hfailed.mpr hfails with ⟨e, rfl⟩
  have hback := (hback e rfl).1
  have hfresh := hunused fun _ he => absurd he List.not_mem_nil
  have hidle := (hback.unused hfresh).idle
  have hconfig : q.config = pairConfig := by
    rw [hback.pool]
    rfl
  have hfree : q.lifecycle.tryTake = .taken WarmUp.taken := by
    rw [hback.pool]
    rfl
  have hopens :
      swiftBackend.opensAll q.config q.config.minSize.toNat ⟨⟨60000000000⟩, []⟩ = true := by
    rw [hconfig]
    decide +kernel
  have hlater : WarmUp.Begins q (Instant.mk 60000000000) WarmUp.taken
      (WarmUp.start q ⟨60000000000⟩) := .atOnce hfree
  rcases hback.again swiftBackend ⟨⟨60000000000⟩, []⟩ _ _ hlater hopens with
    ⟨l, q', hdrives', hfurnished⟩
  refine ⟨rfl, k, q, e, hdrives, hback.phase, hidle, ?_, ?_, l, q', hdrives', hfurnished.phase, ?_⟩
  · rw [hback.pool]
    decide +kernel
  · rw [hback.requests]
    decide +kernel
  · rw [hfurnished.counted, hfurnished.length, hidle, hconfig]
    rfl

/-- A request to shut the pool down is dropped while it waits for maintenance to end, and nothing
comes of setting the pool up again. -/
def interrupted : List Action :=
  [.call .warmUp, .reply 0 (.created (.ok ⟨0⟩)), .reply 0 (.created (.ok ⟨1⟩)), .call .shutDown,
    .drop 1, .call .warmUp, .reply 1 (.created (.error (.connect "refused"))), .reply 1 .stirred,
    .reply 1 (.created (.error (.connect "refused"))), .reply 1 .stirred,
    .reply 1 (.created (.error (.connect "refused")))]

/-- Setting that pool up fails, and two connections are idle.  Setting it up again does not fail,
and four connections are idle in a pool of two. -/
theorem leftovers_of_interrupted :
    pairConfig.fault? = none ∧ pairConfig.minSize = 2 ∧ pairConfig.maxSize = 2 ∧
      exists log t, Run (ofConfig pairConfig) log t ∧ log.map (fun e => e.2) = interrupted ∧
        t.pool.phase = .uninitialized ∧
        exists k q e,
          WarmUp.machine.Drives stubbornBackend ⟨t.now, []⟩ (WarmUp.start t.pool t.now) k
            (q, .error e) ∧
          q.phase = .uninitialized ∧ q.idle.length = 2 ∧
          exists l q',
            WarmUp.machine.Drives swiftBackend ⟨t.now, []⟩ (WarmUp.start q t.now) l (q', .ok ()) ∧
            q'.phase = .ready ∧ q'.idle.length = 4 ∧ q'.stats.total = 4 := by
  have hrun : ((ofConfig pairConfig).run interrupted).any
      (fun t => t.pool.phase = .uninitialized ∧ t.pool.lifecycle = .lock ∧
        t.pool.idle.length = 2 ∧ t.pool.stats.total = 2 ∧ t.now = ⟨0⟩) = true := by
    decide +kernel
  rcases exists_run_of_any hrun with ⟨log, t, h, hactions, hend⟩
  rcases of_decide_eq_true hend with ⟨hphase, hlock, hidle, htotal, hnow⟩
  have hconfig : t.pool.config = pairConfig := h.config_eq (settled_ofConfig pairConfig)
  have hfails : stubbornBackend.opensAll t.pool.config t.pool.config.minSize.toNat ⟨t.now, []⟩ =
      false := by
    rw [hconfig, hnow]
    decide +kernel
  have hbegins : WarmUp.Begins t.pool t.now WarmUp.taken (WarmUp.start t.pool t.now) :=
    .atOnce (by rw [hlock]; rfl)
  rcases WarmUp.setBack (j := ⟨t.now, []⟩) hphase hbegins hfails with ⟨k, q, e, hdrives, hback⟩
  have hconfig' : q.config = pairConfig := by
    rw [hback.pool]
    exact hconfig
  have hopens : swiftBackend.opensAll q.config q.config.minSize.toNat ⟨t.now, []⟩ = true := by
    rw [hconfig', hnow]
    decide +kernel
  have hlater : WarmUp.Begins q t.now WarmUp.taken (WarmUp.start q t.now) :=
    .atOnce (by rw [hback.pool]; rfl)
  rcases hback.again swiftBackend ⟨t.now, []⟩ _ _ hlater hopens with ⟨l, q', hdrives', hfurnished⟩
  have hidle' : q.idle.length = 2 := by
    rw [hback.pool]
    exact hidle
  have htotal' : q.stats.total = 2 := by
    rw [hback.pool]
    exact htotal
  refine ⟨by decide +kernel, rfl, rfl, log, t, h, hactions, hphase, k, q, e, hdrives, hback.phase,
    hidle', l, q', hdrives', hfurnished.phase, ?_, ?_⟩
  · rw [hfurnished.length, hidle', hconfig']
    rfl
  · rw [hfurnished.total, htotal', hconfig']
    rfl

end Traffic
end PoolHealth
