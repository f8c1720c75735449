import PoolHealth.Health.Service
import PoolHealth.Proofs.Manager.Agreement
import PoolHealth.Proofs.Manager.CheckingAll

/-!
# Evidence for health

A check that looks at pools calls them healthy if they have passed their probes.  It also does
so if the manager does not have them, and there are two reasons for that: they are not in the
configuration, or the manager is not ready.  Only in the first case is there nothing to look at.
-/

namespace PoolHealth

namespace ComponentHealth

/-!
## Findings leave the status alone
-/

@[simp] theorem status_withMetadata (h : ComponentHealth) (key : String) (value : Json) :
    (h.withMetadata key value).status = h.status := rfl

@[simp] theorem status_withUsage (h : ComponentHealth) (usage threshold : Float) :
    (h.withUsage usage threshold).status = h.status := rfl

@[simp] theorem status_withErrorCount (h : ComponentHealth) (n : Nat) :
    (h.withErrorCount n).status = h.status := rfl

@[simp] theorem status_foldl_withMetadata (findings : List (String × Json)) (h : ComponentHealth) :
    (findings.foldl (fun h (key, value) => h.withMetadata key value) h).status = h.status := by
  induction findings generalizing h with
  | nil =>
      rfl
  | cons e rest ih =>
      exact ih _

end ComponentHealth

namespace HealthCheck

variable {c : HealthCheck}

@[simp] theorem status_plain (c : HealthCheck) (status : HealthStatus) (message : String) :
    (c.plain status message).status = status := rfl

/-!
## What is said of pools that were probed
-/

theorem status_databaseHealth (c : HealthCheck) (pool : String) (threshold : Float)
    (healthy : Bool) (s : PoolStats) :
    (c.databaseHealth pool threshold healthy s).status
      = if healthy then (ComponentHealth.classifyPoolUsage s.active s.total threshold).1
        else .unhealthy := by
  cases healthy with
  | true | false =>
      simp [databaseHealth]

theorem passed_of_databaseHealth {pool : String} {threshold : Float} {healthy : Bool}
    {s : PoolStats} (h : (c.databaseHealth pool threshold healthy s).status = .healthy) :
    healthy = true := by
  rw [status_databaseHealth] at h
  cases healthy with
  | true =>
      rfl
  | false =>
      cases h

theorem status_probeHealth (c : HealthCheck) (pool : String) (kind : BackendKind)
    (healthy : Bool) (s : PoolStats) :
    (c.probeHealth pool kind healthy s).status = if healthy then .healthy else .unhealthy := by
  cases healthy with
  | true | false =>
      simp [probeHealth]

theorem passed_of_probeHealth {pool : String} {kind : BackendKind} {healthy : Bool}
    {s : PoolStats} (h : (c.probeHealth pool kind healthy s).status = .healthy) :
    healthy = true := by
  rw [status_probeHealth] at h
  cases healthy with
  | true =>
      rfl
  | false =>
      cases h

theorem classifyPools_healthy {capacityPercent : Float} {active total : Nat}
    {failing : List String}
    (h : (classifyPools capacityPercent active total failing).1 = .healthy) :
    0 < total ∧ failing = [] := by
  unfold classifyPools at h
  split at h
  · cases h
  · rename_i htotal
    refine ⟨Nat.pos_of_ne_zero htotal, ?_⟩
    split at h
    · cases h
    · rename_i hfailing
      simpa using hfailing

def failing (verdicts : List (String × Bool)) : List String :=
  ((verdicts.filter fun v => !v.2).map (·.1)).mergeSort fun a b => !decide (b < a)

theorem status_poolsHealth (c : HealthCheck) (capacityPercent : Float)
    (verdicts : List (String × Bool)) (stats : List PoolStats) :
    (c.poolsHealth capacityPercent verdicts stats).status
      = (classifyPools capacityPercent (Count.total (stats.map PoolStats.active))
          (Count.total (stats.map PoolStats.total)) (failing verdicts)).1 := by
  simp [poolsHealth, failing]

theorem passed_of_failing (verdicts : List (String × Bool)) (h : failing verdicts = []) :
    forall v, v ∈ verdicts -> v.2 = true := by
  have hnone : (verdicts.filter fun v => !v.2) = [] := by
    have hperm : (failing verdicts).Perm ((verdicts.filter fun v => !v.2).map (·.1)) :=
      List.mergeSort_perm _ _
    rw [h] at hperm
    exact List.map_eq_nil_iff.mp hperm.symm.eq_nil
  intro v hv
  have hpassed := List.filter_eq_nil_iff.mp hnone v hv
  simpa using hpassed

theorem passed_of_poolsHealth {capacityPercent : Float} {verdicts : List (String × Bool)}
    {stats : List PoolStats}
    (h : (c.poolsHealth capacityPercent verdicts stats).status = .healthy) :
    0 < Count.total (stats.map PoolStats.total) ∧ forall v, v ∈ verdicts -> v.2 = true := by
  rw [status_poolsHealth] at h
  rcases classifyPools_healthy h with ⟨htotal, hfailing⟩
  exact ⟨htotal, passed_of_failing verdicts hfailing⟩

end HealthCheck

/-!
## Reports and their grounds
-/

/-- Whether that is a reply to what a check waits for.  A check of all pools is told an outcome
for each of them. -/
def CheckReply.Fits : CheckReply -> CheckRun -> Prop
  | poolChecked _, .probing _ => True
  | allChecked outcomes, .probingAll k => outcomes.length = k.pools.length
  | answered _, .asking _ => True
  | poolChecked _, .probingAll _ | poolChecked _, .asking _ | allChecked _, .probing _
  | allChecked _, .asking _ | answered _, .probing _ | answered _, .probingAll _ => False

/-- What is reported of a check that begins when the manager is in one state, and goes on with a
reply when it is in another; if a probe breaks down or takes too long there is no reply. -/
inductive Report (c : HealthCheck) (config : HealthConfig) (host : Host.Readings)
    (m m' : PoolManager) (view : PoolView) (elapsed : Duration) :
    Option CheckReply -> ComponentHealth -> Prop where
  | atOnce {r : CheckOutcome} (hstart : CheckRun.start c config host m = .done r) :
      Report c config host m m' view elapsed none (HealthService.settle c elapsed r)
  | told {k : CheckRun} {reply : CheckReply} {r : CheckOutcome}
      (hstart : CheckRun.start c config host m = .waiting k) (hfits : reply.Fits k)
      (hstep : k.step c m' view reply = .done r) :
      Report c config host m m' view elapsed (some reply) (HealthService.settle c elapsed r)
  | brokeDown {k : CheckRun} {e : CheckError}
      (hstart : CheckRun.start c config host m = .waiting k) :
      Report c config host m m' view elapsed none (HealthService.settle c elapsed (.error e))

namespace CheckSubject

def Watches (config : ManagerConfig) : CheckSubject -> Prop
  | databasePool pool _ | singlePool pool => pool ∈ config.pools.map PoolDefinition.name
  | allPools _ => config.pools ≠ []
  | fileSystem | memory | cpu | outside _ => False

/-- What a report of good health is to be based on: there is nothing to look at, or every pool
in question is there and has passed its probe, and all pools together have connections. -/
def Founded (config : ManagerConfig) (m m' : PoolManager) (view : PoolView)
    (reply : Option CheckReply) : CheckSubject -> Prop
  | databasePool pool _ | singlePool pool =>
      pool ∉ config.pools.map PoolDefinition.name ∨
        (m.find? pool).isSome = true ∧ reply = some (.poolChecked true)
  | allPools _ =>
      config.pools = [] ∨ 0 < Count.total (m'.pools.map fun q => (view q.2).2.total) ∧
        reply = some (.allChecked (m.pools.map fun _ => some true))
  | fileSystem | memory | cpu | outside _ => True

def Missing (m : PoolManager) : CheckSubject -> Prop
  | databasePool pool _ | singlePool pool => m.find? pool = none
  | allPools _ => m.pools = []
  | fileSystem | memory | cpu | outside _ => False

end CheckSubject

section Reports

variable {c : HealthCheck} {config : HealthConfig} {host : Host.Readings} {m m' : PoolManager}
  {view : PoolView} {elapsed : Duration} {reply : Option CheckReply} {x : ComponentHealth}
  {pool : String} {pools : ManagerConfig}

theorem ok_of_settle {r : CheckOutcome} (h : (HealthService.settle c elapsed r).status = .healthy) :
    exists y, r = .ok y ∧ y.status = .healthy := by
  cases r with
  | ok y =>
      exact ⟨y, rfl, h⟩
  | error e =>
      cases h

theorem outcomes_of_passed {k : CheckAll} {outcomes : List (Option Bool)}
    (hlength : outcomes.length = k.pools.length)
    (h : forall v, v ∈ k.verdicts outcomes -> v.2 = true) :
    outcomes = k.pools.map fun _ => some true := by
  refine List.ext_getElem (by rw [List.length_map, hlength]) ?_
  intro j hj hj'
  have hpool : j < k.pools.length := by omega
  have hverdict := Fleet.getElem?_verdicts (p := k.pools[j].2) (List.getElem?_eq_getElem hpool)
    (List.getElem?_eq_getElem hj)
  have hpassed : (outcomes[j]).getD false = true := h _ (List.mem_of_getElem? hverdict)
  rw [List.getElem_map]
  cases ho : outcomes[j] with
  | none =>
      rw [ho] at hpassed
      cases hpassed
  | some passed =>
      rw [ho] at hpassed
      exact congrArg some hpassed

theorem Report.passed_of_pool (h : Report c config host m m' view elapsed reply x)
    (hstart : CheckRun.start c config host m = CheckRun.ofPool c m pool)
    (hstep : forall p healthy y,
      (CheckRun.probing p).step c m' view (.poolChecked healthy) = .done (.ok y) ->
        y.status = .healthy -> healthy = true)
    (hhealthy : x.status = .healthy) (hfound : m.find? pool ≠ none) :
    (m.find? pool).isSome = true ∧ reply = some (.poolChecked true) := by
  rcases Option.ne_none_iff_exists'.mp hfound with ⟨p, hp⟩
  have hwaits : CheckRun.start c config host m = .waiting (.probing p) := by
    rw [hstart]
    unfold CheckRun.ofPool
    rw [hp]
  refine ⟨by rw [hp]; rfl, ?_⟩
  cases h with
  | atOnce hdone =>
      rw [hwaits] at hdone
      cases hdone
  | told hwaits' hfits hdone =>
      rename_i k reply r
      rw [hwaits] at hwaits'
      cases hwaits'
      cases reply with
      | poolChecked healthy =>
          rcases ok_of_settle hhealthy with ⟨y, rfl, hy⟩
          rw [hstep p healthy y hdone hy]
      | allChecked outcomes | answered r =>
          cases hfits
  | brokeDown hwaits' =>
      cases hhealthy

theorem report_of_missing_pool (hstart : CheckRun.start c config host m = CheckRun.ofPool c m pool)
    (hmissing : m.find? pool = none) :
    Report c config host m m' view elapsed none
      (HealthService.settle c elapsed (.ok c.notConfigured)) := by
  apply Report.atOnce
  rw [hstart]
  unfold CheckRun.ofPool
  rw [hmissing]

/-- Reports of good health are founded, unless the manager does not have what the configuration
says that there is to look at. -/
theorem healthy_founded_of_present
    (h : Report c config host m m' view elapsed reply x) (hhealthy : x.status = .healthy)
    (hpresent : c.subject.Watches pools -> ¬c.subject.Missing m) :
    c.subject.Founded pools m m' view reply := by
  cases hsubject : c.subject with
  | databasePool pool threshold =>
      rw [hsubject] at hpresent
      by_cases hwatches : pool ∈ pools.pools.map PoolDefinition.name
      · refine Or.inr (h.passed_of_pool ?_ ?_ hhealthy (hpresent hwatches))
        · unfold CheckRun.start
          rw [hsubject]
        · intro p healthy y hstep hy
          simp only [CheckRun.step, hsubject] at hstep
          cases hstep
          exact HealthCheck.passed_of_databaseHealth hy
      · exact Or.inl hwatches
  | singlePool pool =>
      rw [hsubject] at hpresent
      by_cases hwatches : pool ∈ pools.pools.map PoolDefinition.name
      · refine Or.inr (h.passed_of_pool ?_ ?_ hhealthy (hpresent hwatches))
        · unfold CheckRun.start
          rw [hsubject]
        · intro p healthy y hstep hy
          simp only [CheckRun.step, hsubject] at hstep
          cases hstep
          exact HealthCheck.passed_of_probeHealth hy
      · exact Or.inl hwatches
  | allPools capacityPercent =>
      rw [hsubject] at hpresent
      by_cases hwatches : pools.pools = []
      · exact Or.inl hwatches
      · refine Or.inr ?_
        have hwaits : CheckRun.start c config host m = .waiting (.probingAll ⟨m.pools⟩) := by
          have hnot : m.pools.isEmpty = false := List.isEmpty_eq_false_iff.mpr (hpresent hwatches)
          simp only [CheckRun.start, hsubject, hnot]
          rfl
        cases h with
        | atOnce hdone =>
            rw [hwaits] at hdone
            cases hdone
        | told hwaits' hfits hstep =>
            rename_i k reply r
            rw [hwaits] at hwaits'
            cases hwaits'
            cases reply with
            | allChecked outcomes =>
                simp only [CheckRun.step, hsubject] at hstep
                cases hstep
                rcases ok_of_settle hhealthy with ⟨y, hy, hhealthy'⟩
                cases hy
                rcases HealthCheck.passed_of_poolsHealth hhealthy' with ⟨htotal, hpassed⟩
                rw [List.map_map] at htotal
                refine ⟨htotal, ?_⟩
                rw [outcomes_of_passed hfits hpassed]
            | poolChecked healthy | answered r =>
                cases hfits
        | brokeDown hwaits' =>
            cases hhealthy
  | fileSystem | memory | cpu | outside id =>
      exact trivial

/-- What the configuration says that there is to look at is missing, and that is reported as
good health at once. -/
theorem report_of_missing (hmissing : c.subject.Missing m) :
    exists x, Report c config host m m' view elapsed none x ∧ x.status = .healthy := by
  cases hsubject : c.subject with
  | databasePool pool threshold | singlePool pool =>
      rw [hsubject] at hmissing
      refine ⟨_, report_of_missing_pool ?_ hmissing, rfl⟩
      unfold CheckRun.start
      rw [hsubject]
  | allPools capacityPercent =>
      rw [hsubject] at hmissing
      refine ⟨_, .atOnce (r := .ok (c.plain .healthy "no connection pools configured")) ?_, rfl⟩
      have hempty : m.pools.isEmpty = true := List.isEmpty_iff.mpr hmissing
      simp only [CheckRun.start, hsubject, hempty, if_true]
  | fileSystem | memory | cpu | outside id =>
      rw [hsubject] at hmissing
      cases hmissing

theorem not_founded_of_missing (hwatches : c.subject.Watches pools)
    (hmissing : c.subject.Missing m) : ¬c.subject.Founded pools m m' view none := by
  cases hsubject : c.subject with
  | databasePool pool threshold | singlePool pool =>
      rw [hsubject] at hwatches
      rintro (hnot | ⟨_, hreply⟩)
      · exact hnot hwatches
      · cases hreply
  | allPools capacityPercent =>
      rw [hsubject] at hwatches
      rintro (hnot | ⟨_, hreply⟩)
      · exact hwatches hnot
      · cases hreply
  | fileSystem | memory | cpu | outside id =>
      rw [hsubject] at hmissing
      cases hmissing

end Reports

namespace Fleet

variable {c : ManagerConfig} {s t : Fleet}

/-- The manager has brought its pools up, and nobody is closing them. -/
def Serves (s : Fleet) : Prop :=
  s.manager.phase = .ready ∧ forall k, k ∈ s.calls -> k.isClosing = false

theorem Sound.empty_of_not_serves (h : Sound c s) (hnot : ¬s.Serves) : s.manager.pools = [] := by
  by_cases hclosing : forall k, k ∈ s.calls -> k.isClosing = false
  · exact ((h.tidy hclosing).empty fun hready => hnot ⟨hready, hclosing⟩).1
  · push Not at hclosing
    rcases hclosing with ⟨k, hk, hcloses⟩
    rcases List.getElem?_of_mem hk with ⟨i, hi⟩
    cases k with
    | closeAll k errands =>
        cases k with
        | closing pools =>
            exact (h.fits i _ hi).2.emptied
        | queued ticket =>
            exact absurd rfl hcloses
    | bringUp k | broughtUp r | allClosed | checkAll k errands | allChecked k outcomes verdicts =>
        exact absurd rfl hcloses

theorem Sound.finds_of_serves (h : Sound c s) (hserves : s.Serves) {pool : String}
    (hpool : pool ∈ c.pools.map PoolDefinition.name) : s.manager.find? pool ≠ none := by
  rcases List.mem_map.mp hpool with ⟨d, hd, rfl⟩
  have htidy := h.tidy hserves.2
  have hinitialized := (htidy.complete hserves.1).1
  exact Option.isSome_iff_ne_none.mp (htidy.agrees.finds hinitialized d hd)

theorem Sound.missing_iff {subject : CheckSubject} (h : Sound c s)
    (hwatches : subject.Watches c) : subject.Missing s.manager <-> ¬s.Serves := by
  constructor
  · intro hmissing hserves
    cases subject with
    | databasePool pool threshold | singlePool pool =>
        exact h.finds_of_serves hserves hwatches hmissing
    | allPools capacityPercent =>
        rcases List.exists_mem_of_ne_nil _ hwatches with ⟨d, hd⟩
        exact h.finds_of_serves hserves (List.mem_map_of_mem hd) (find?_of_empty hmissing _)
    | fileSystem | memory | cpu | outside id =>
        exact hwatches
  · intro hnot
    have hempty := h.empty_of_not_serves hnot
    cases subject with
    | databasePool pool threshold | singlePool pool =>
        exact find?_of_empty hempty pool
    | allPools capacityPercent =>
        exact hempty
    | fileSystem | memory | cpu | outside id =>
        exact hwatches

/-- Whatever becomes of the probes, and whatever happens while they run: reports of good health
are founded, unless there is something to look at and the manager does not serve. -/
theorem Run.healthy_founded_iff {log : Log} (h : Run (ofConfig c) log s) (check : HealthCheck)
    (config : HealthConfig) (host : Host.Readings) :
    (forall (after : Log) (t : Fleet) (view : PoolView) (elapsed : Duration)
        (reply : Option CheckReply) (x : ComponentHealth), Run s after t ->
          Report check config host s.manager t.manager view elapsed reply x ->
            x.status = .healthy -> check.subject.Founded c s.manager t.manager view reply) <->
      ¬(check.subject.Watches c ∧ ¬s.Serves) := by
  constructor
  · rintro hall ⟨hwatches, hnot⟩
    have hmissing := (h.sound.missing_iff hwatches).mpr hnot
    have hreported : exists x, Report check config host s.manager s.manager
        (fun _ => (.other, .fresh "")) .zero none x ∧ x.status = .healthy :=
      report_of_missing hmissing
    rcases hreported with ⟨x, hreport, hhealthy⟩
    exact not_founded_of_missing hwatches hmissing (hall [] s _ _ _ x (.done s) hreport hhealthy)
  · intro hnot after t view elapsed reply x _ hreport hhealthy
    refine healthy_founded_of_present hreport hhealthy fun hwatches hmissing => hnot ?_
    exact ⟨hwatches, (h.sound.missing_iff hwatches).mp hmissing⟩

def idleHost : Host.Readings where
  tempDir := "/tmp"
  disk := none
  target := .directory
  memoryPercent := 10.0
  memoryAvailableGiB := 8.0
  memoryTotalGiB := 16.0
  cpuPercent := 1.0
  cores := 4

def databasePing : HealthCheck := .probe "database_ping" .database "database"

def freshView : PoolView := fun _ => (.database, .fresh "database")

def broughtUp : List FleetAction :=
  [.call .bringUp, .reply 0 (.built (.ok 0)), .reply 0 (.warmedUp (.ok ()))]

/-- The pool is there and answers that it is well, and so it is called healthy. -/
theorem healthy_founded_iff_serving : exists log s x, Run (ofConfig onePool) log s ∧
    log.map (fun e => e.2) = broughtUp ∧
      Report databasePing .standard idleHost s.manager s.manager freshView .zero
        (some (.poolChecked true)) x ∧ x.status = .healthy ∧
        databasePing.subject.Founded onePool s.manager s.manager freshView
          (some (.poolChecked true)) := by
  have hany : (run (ofConfig onePool) broughtUp).any (fun s =>
      s.manager.find? "database" = some 0 ∧ s.manager.phase = .ready ∧
        forall k, k ∈ s.calls -> k.isClosing = false) = true := by
    decide +kernel
  rcases Trace.exists_of_any hany with ⟨log, s, h, hactions, hend⟩
  rcases of_decide_eq_true hend with ⟨hfind, hserves⟩
  have hwaits : CheckRun.start databasePing .standard idleHost s.manager
      = .waiting (.probing 0) := by
    have hpool : CheckRun.start databasePing .standard idleHost s.manager
        = CheckRun.ofPool databasePing s.manager "database" := rfl
    rw [hpool, CheckRun.ofPool, hfind]
  have hreport : Report databasePing .standard idleHost s.manager s.manager freshView .zero
      (some (.poolChecked true))
      (HealthService.settle databasePing .zero
        (.ok (databasePing.probeHealth "database" .database true (.fresh "database")))) :=
    .told hwaits trivial rfl
  exact ⟨log, s, _, h, hactions, hreport, rfl,
    (Run.healthy_founded_iff h databasePing .standard idleHost).mpr
      (fun hboth => hboth.2 hserves) [] s _ _ _ _ (.done s) hreport rfl⟩

/-- Before the manager is brought up, a database that is in its configuration is called healthy,
and nobody has looked at it. -/
theorem healthy_before_bringUp : ¬forall (c : ManagerConfig) (log after : Log) (s t : Fleet)
    (check : HealthCheck) (config : HealthConfig) (host : Host.Readings) (view : PoolView)
    (elapsed : Duration) (reply : Option CheckReply) (x : ComponentHealth),
      Run (ofConfig c) log s -> Run s after t ->
        Report check config host s.manager t.manager view elapsed reply x ->
          x.status = .healthy -> check.subject.Founded c s.manager t.manager view reply := by
  intro hall
  have hfounded := hall onePool [] [] _ _ databasePing .standard idleHost freshView .zero none _
    (.done _) (.done _) (.atOnce rfl) rfl
  rcases hfounded with hnot | ⟨hfound, _⟩
  · exact hnot (List.mem_singleton_self _)
  · cases hfound

end Fleet
end PoolHealth
