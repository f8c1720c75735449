import PoolHealth.Proofs.Pool.Token

/-!
# The traffic at a pool

Calls, maintenance, borrowers and background tasks meet at one pool.  What happens next
is an action of one of them: a new call begins, one that waits is told how its wait
ended, a task is dropped where it stands, a loan ends.  Any action may follow any other,
a wait may end in every way that fits it, and nothing bounds how long it takes.  A
statement about all runs is therefore one about all interleavings, all backends and all
clocks.

A run keeps a log of its actions, each with the state in which it was taken.
-/

namespace PoolHealth

inductive Party where
  | caller (k : PoolCall)
  | maintainer (round : Nat) (m : Maintenance)
  | borrower (l : Lease)
  /-- A background task that is to close a connection and has not begun. -/
  | closer (c : Connection)
  /-- A background task whose connection the backend closes. -/
  | finisher (c : Connection)
deriving DecidableEq

namespace Party

def stake : Party -> Multiset Token
  | caller k => k.stake
  | maintainer _ m => m.stake
  | borrower l => {.lent l.connection}
  | closer c => {.retired c .pending}
  | finisher _ => 0

def underway : Party -> Multiset Token
  | caller k => k.underway
  | maintainer _ m => m.underway
  | finisher c => {.retired c .passed}
  | borrower _ | closer _ => 0

def remains : Party -> Multiset Token
  | caller k => k.remains
  | maintainer _ m => m.remains
  | closer c => {.retired c .lost}
  | borrower _ | finisher _ => 0

def tokens (x : Party) : Multiset Token := x.stake + x.underway

def ofProgress : Progress PoolCall PoolAnswer -> List Party
  | .waiting k => [caller k]
  | .done (.lent (.ok l)) => [borrower l]
  | .done _ => []

def checkout? : Party -> Option Checkout
  | caller k => k.checkout?
  | maintainer _ m => m.checkout?
  | borrower _ | closer _ | finisher _ => none

end Party

namespace Reply

def fits : Reply -> Await -> Bool
  | stirred, .slot _ | stirred, .lifecycle _ | stirred, .maintenanceEnd | stirred, .pause _ => true
  | timedOut, .slot _ | timedOut, .create | timedOut, .validate _ | timedOut, .close _ => true
  | created _, .create => true
  | validated _, .validate _ => true
  | closed _, .close _ => true
  | _, _ => false

def arrivals : Reply -> List Connection
  | created (.ok c) => [c]
  | _ => []

end Reply

inductive Action where
  | elapse (d : Duration)
  | call (r : PoolRequest)
  | reply (i : Nat) (r : Reply)
  | drop (i : Nat)
  /-- A lease ends, where something can be done in the background or not. -/
  | giveBack (i : Nat) (background : Bool)
  | markBroken (i : Nat)
  /-- Maintenance that was told to end does so. -/
  | retire (i : Nat)

namespace Action

def isDrop : Action -> Bool
  | drop _ => true
  | elapse _ | call _ | reply _ _ | giveBack _ _ | markBroken _ | retire _ => false

end Action

/-- A pool with everybody who has to do with it. -/
structure Traffic where
  pool : ConnectionPool
  now : Instant := ⟨0⟩
  parties : List Party := []
  /-- How often maintenance was told to end. -/
  round : Nat := 0
  opened : List Connection := []
  remains : Multiset Token := 0
  records : List MetricRecord := []

namespace Traffic

def ofConfig (c : PoolConfig) : Traffic where
  pool := .ofConfig c

def held (s : Traffic) : Multiset Token := (s.parties.map Party.tokens).sum + s.remains

/-!
## One action
-/

def react (s : Traffic) : PoolEvent -> Traffic
  | .closeLater c => { s with parties := s.parties ++ [.closer c] }
  | .maintenanceStarted =>
      { s with
        parties :=
          s.parties
            ++ [.maintainer s.round (.start s.pool.config.healthCheckInterval s.now)] }
  | .maintenanceStopping => { s with round := s.round + 1 }
  | .measured r => { s with records := s.records ++ [r] }
  | .slotStirred _ | .lockPassed _ => s

/-- The pool has changed, and the surroundings take note of it. -/
def adopt (s : Traffic) (p : ConnectionPool) : Traffic :=
  p.outbox.foldl react { s with pool := { p with outbox := [] } }

def replace (s : Traffic) (i : Nat) (xs : List Party) : Traffic :=
  { s with parties := s.parties.take i ++ xs ++ s.parties.drop (i + 1) }

/-- Whether a wait can be over: maintenance of the last round has ended if it is waited
for. -/
def canEnd (s : Traffic) : Await -> Bool
  | .maintenanceEnd =>
      s.parties.all fun
        | .maintainer n _ => n + 1 != s.round
        | _ => true
  | _ => true

/-- Whether a wait can end that way now.  The backend never opens a connection twice. -/
def allows (s : Traffic) (a : Await) (r : Reply) : Bool :=
  r.fits a && s.canEnd a && r.arrivals.all fun c => !s.opened.contains c

/-- How a party goes on after its wait: the pool afterwards, and who takes its place. -/
def proceed (s : Traffic) (r : Reply) : Party -> Option (ConnectionPool × List Party)
  | .caller k =>
      if s.allows (k.await s.pool.config) r then
        let (p, k) := k.step s.pool s.now r
        some (p, Party.ofProgress k)
      else none
  | .maintainer n (.checking due k) =>
      if s.allows (k.await s.pool.config) r then
        let (p, m) := Maintenance.step s.pool s.now (.checking due k) r
        some (p, [.maintainer n m])
      else none
  | .maintainer n (.resting due) =>
      if r.fits (.pause .zero) ∧ due ≤ s.now then
        let (p, m) := Maintenance.step s.pool s.now (.resting due) r
        some (p, [.maintainer n m])
      else none
  | .closer c => if r.fits (.pause .zero) then some (s.pool, [.finisher c]) else none
  | .finisher c => if s.allows (.close c) r then some (s.pool, []) else none
  | .borrower _ => none

def abandon (s : Traffic) : Party -> Option ConnectionPool
  | .caller k => some (k.cancel s.pool s.now)
  | .maintainer _ m => some (m.cancel s.pool s.now)
  | .closer _ | .finisher _ => some s.pool
  | .borrower _ => none

/-- What remains of a lease that has ended: a connection that should be closed, but
nothing can be done in the background. -/
def stranded (s : Traffic) (l : Lease) (background : Bool) : Multiset Token :=
  if background || s.pool.isReusable s.now l then 0 else {.retired l.connection .lost}

def step (s : Traffic) : Action -> Option Traffic
  | .elapse d => some { s with now := ⟨s.now.nanos + d.nanos⟩ }
  | .call r =>
      let (p, k) := PoolCall.start s.pool s.now r
      some (adopt { s with parties := s.parties ++ Party.ofProgress k } p)
  | .reply i r => do
      let x ← s.parties[i]?
      let (p, xs) ← s.proceed r x
      return adopt
        { s.replace i xs with
          opened := s.opened ++ r.arrivals
          remains := s.remains + x.underway } p
  | .drop i => do
      let x ← s.parties[i]?
      let p ← s.abandon x
      return adopt { s.replace i [] with remains := s.remains + x.underway + x.remains } p
  | .giveBack i background =>
      match s.parties[i]? with
      | some (.borrower l) =>
          some
            (adopt { s.replace i [] with remains := s.remains + s.stranded l background }
              (s.pool.giveBack s.now l background))
      | _ => none
  | .markBroken i =>
      match s.parties[i]? with
      | some (.borrower l) => some (s.replace i [.borrower { l with broken := true }])
      | _ => none
  | .retire i =>
      match s.parties[i]? with
      | some (.maintainer n (.resting _)) => if n < s.round then some (s.replace i []) else none
      | _ => none

/-!
## Runs
-/

/-- What happened, oldest first, each with the state before it. -/
abbrev Log := List (Traffic × Action)

inductive Run : Traffic -> Log -> Traffic -> Prop where
  | done (s : Traffic) : Run s [] s
  | act {s t u : Traffic} {a : Action} {log : Log} :
      s.step a = some t -> Run t log u -> Run s ((s, a) :: log) u

def run (s : Traffic) : List Action -> Option Traffic
  | [] => some s
  | a :: rest => (s.step a).bind fun t => run t rest

theorem exists_run_of_run_eq_some {s t : Traffic} {actions : List Action}
    (h : s.run actions = some t) :
    exists log, Run s log t ∧ log.map (fun e => e.2) = actions := by
  induction actions generalizing s with
  | nil =>
      cases h
      exact ⟨[], Run.done _, rfl⟩
  | cons a rest ih =>
      rcases Option.bind_eq_some_iff.mp h with ⟨u, hstep, hrest⟩
      rcases ih hrest with ⟨log, hrun, hactions⟩
      exact ⟨(s, a) :: log, Run.act hstep hrun, by simp [hactions]⟩

/-- What can be computed to come of a list of actions comes of a run. -/
theorem exists_run_of_any {s : Traffic} {actions : List Action} {P : Traffic -> Bool}
    (h : (s.run actions).any P = true) :
    exists log t, Run s log t ∧ log.map (fun e => e.2) = actions ∧ P t = true := by
  rcases (Option.any_eq_true_iff_get P (s.run actions)).mp h with ⟨hsome, hP⟩
  rcases exists_run_of_run_eq_some (Option.some_get hsome).symm with ⟨log, hrun, hactions⟩
  exact ⟨log, (s.run actions).get hsome, hrun, hactions, hP⟩

theorem Run.append {s t u : Traffic} {log later : Log} (h : Run s log t) (h' : Run t later u) :
    Run s (log ++ later) u := by
  induction h with
  | done s =>
      exact h'
  | act hstep _ ih =>
      exact Run.act hstep (ih h')

theorem Run.split {s t : Traffic} {log : Log} {e : Traffic × Action} (h : Run s log t)
    (he : e ∈ log) :
    exists before later u, log = before ++ e :: later ∧ Run s before e.1 ∧
      e.1.step e.2 = some u ∧ Run u later t := by
  induction h with
  | done s =>
      cases he
  | @act s t u a log hstep hrest ih =>
      rcases List.mem_cons.mp he with rfl | he
      · exact ⟨[], log, t, rfl, Run.done s, hstep, hrest⟩
      · rcases ih he with ⟨before, later, v, hlog, hbefore, hnext, hlater⟩
        refine ⟨(s, a) :: before, later, v, ?_, Run.act hstep hbefore, hnext, hlater⟩
        rw [hlog]
        rfl

def visited (log : Log) (t : Traffic) : List Traffic := log.map (fun e => e.1) ++ [t]

theorem Run.mem_visited {s t : Traffic} {log : Log} (h : Run s log t) : s ∈ visited log t := by
  cases h with
  | done s =>
      exact List.mem_singleton_self s
  | act hstep hrest =>
      exact List.mem_cons_self

theorem Run.exists_run_of_mem_visited {s t u : Traffic} {log : Log} (h : Run s log t)
    (hu : u ∈ visited log t) : exists before later, log = before ++ later ∧ Run s before u := by
  rcases List.mem_append.mp hu with hu | hu
  · rcases List.mem_map.mp hu with ⟨e, he, rfl⟩
    rcases h.split he with ⟨before, later, v, hlog, hbefore, _, _⟩
    exact ⟨before, e :: later, hlog, hbefore⟩
  · rw [List.mem_singleton.mp hu]
    exact ⟨log, [], (List.append_nil log).symm, h⟩

/-- What every action keeps holds throughout a run. -/
theorem Run.invariant {I : Traffic -> Prop} {s t : Traffic} {log : Log}
    (hkeep : forall {s t : Traffic} {a : Action}, I s -> s.step a = some t -> I t)
    (h : Run s log t) (hs : I s) : I t := by
  induction h with
  | done s =>
      exact hs
  | act hstep _ ih =>
      exact ih (hkeep hs hstep)

def Undisturbed (log : Log) : Prop := forall e, e ∈ log -> forall i, e.2 ≠ Action.drop i

theorem undisturbed_of_all {log : Log} {actions : List Action}
    (hlog : log.map (fun e => e.2) = actions)
    (h : (actions.all fun a => !a.isDrop) = true) : Undisturbed log := by
  intro e he i hdrop
  have hmem : Action.drop i ∈ actions := by
    rw [← hlog, ← hdrop]
    exact List.mem_map_of_mem he
  have hnot := List.all_eq_true.mp h _ hmem
  cases hnot

def pairConfig : PoolConfig :=
  { PoolConfig.named "p" with
    minSize := 2
    maxSize := 2
    idleTimeout := .ofMillis 100
    maxLifetime := .ofSecs 10
    healthCheckInterval := .ofSecs 1000 }

end Traffic
end PoolHealth
