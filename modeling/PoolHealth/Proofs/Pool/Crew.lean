import PoolHealth.Proofs.Pool.Signals
import PoolHealth.Proofs.Pool.TrafficChanges

/-!
# The crew of a pool

There are several kinds of parties at a pool: calls, rounds of maintenance, borrowers, and those
who close connections in the background.  When one party makes way for others, the rest of its
kind stay.  Closings are left to others and maintenance comes and goes with the events that the
pool puts out, and no other event changes the crew.
-/

namespace PoolHealth

open ConnectionPool

namespace Party

def call? : Party -> Option PoolCall
  | caller k => some k
  | maintainer _ _ | borrower _ | closer _ | finisher _ => none

def round? : Party -> Option Nat
  | maintainer n _ => some n
  | caller _ | borrower _ | closer _ | finisher _ => none

def loan? : Party -> Option Lease
  | borrower l => some l
  | caller _ | maintainer _ _ | closer _ | finisher _ => none

def isClosing : Party -> Bool
  | closer _ | finisher _ => true
  | caller _ | maintainer _ _ | borrower _ => false

theorem nothing_else_of_isClosing {x : Party} (h : x.isClosing = true) :
    x.call? = none ∧ x.round? = none ∧ x.loan? = none := by
  cases x with
  | closer c | finisher c =>
      exact ⟨rfl, rfl, rfl⟩
  | caller k | maintainer n m | borrower l =>
      cases h

end Party

namespace Traffic

variable {s : Traffic} {p : ConnectionPool}

def callers (s : Traffic) : List PoolCall := s.parties.filterMap Party.call?

def rounds (s : Traffic) : List Nat := s.parties.filterMap Party.round?

def loans (s : Traffic) : List Lease := s.parties.filterMap Party.loan?

/-!
## What the surroundings do with events
-/

theorem adopt_callers (s : Traffic) (p : ConnectionPool) : (s.adopt p).callers = s.callers := by
  apply adopt_of_react
  intro u e
  cases e with
  | closeLater c | maintenanceStarted =>
      simp [callers, react, Party.call?]
  | slotStirred t | lockPassed t | maintenanceStopping | measured m =>
      rfl

theorem adopt_loans (s : Traffic) (p : ConnectionPool) : (s.adopt p).loans = s.loans := by
  apply adopt_of_react
  intro u e
  cases e with
  | closeLater c | maintenanceStarted =>
      simp [loans, react, Party.loan?]
  | slotStirred t | lockPassed t | maintenanceStopping | measured m =>
      rfl

/-- The rounds under way and the number of the next one, after an event. -/
def turn : List Nat × Nat -> PoolEvent -> List Nat × Nat
  | (ns, n), .maintenanceStarted => (ns ++ [n], n)
  | (ns, n), .maintenanceStopping => (ns, n + 1)
  | x, .slotStirred _ | x, .lockPassed _ | x, .closeLater _ | x, .measured _ => x

theorem rounds_react (s : Traffic) (e : PoolEvent) :
    ((s.react e).rounds, (s.react e).round) = turn (s.rounds, s.round) e := by
  cases e with
  | closeLater c | maintenanceStarted =>
      simp [rounds, react, Party.round?, turn]
  | slotStirred t | lockPassed t | maintenanceStopping | measured m =>
      rfl

theorem adopt_rounds (s : Traffic) (p : ConnectionPool) :
    ((s.adopt p).rounds, (s.adopt p).round) = p.signals.foldl turn (s.rounds, s.round) := by
  have hfold : forall (events : List PoolEvent) (u : Traffic),
      ((events.foldl react u).rounds, (events.foldl react u).round)
        = (events.filter PoolEvent.isSignal).foldl turn (u.rounds, u.round) := by
    intro events
    induction events with
    | nil =>
        intro u
        rfl
    | cons e rest ih =>
        intro u
        rw [List.foldl_cons, ih, rounds_react]
        cases e with
        | maintenanceStarted | maintenanceStopping =>
            rfl
        | slotStirred t | lockPassed t | closeLater c | measured m =>
            rfl
  exact hfold p.outbox { s with pool := { p with outbox := [] } }

theorem adopt_rounds_of_quiet (s : Traffic) (h : p.signals = []) :
    (s.adopt p).rounds = s.rounds ∧ (s.adopt p).round = s.round := by
  have hrounds := adopt_rounds s p
  rw [h] at hrounds
  exact Prod.ext_iff.mp hrounds

theorem adopt_rounds_of_started (s : Traffic) (h : p.signals = [.maintenanceStarted]) :
    (s.adopt p).rounds = s.rounds ++ [s.round] ∧ (s.adopt p).round = s.round := by
  have hrounds := adopt_rounds s p
  rw [h] at hrounds
  exact Prod.ext_iff.mp hrounds

theorem adopt_rounds_of_stopping (s : Traffic) (h : p.signals = [.maintenanceStopping]) :
    (s.adopt p).rounds = s.rounds ∧ (s.adopt p).round = s.round + 1 := by
  have hrounds := adopt_rounds s p
  rw [h] at hrounds
  exact Prod.ext_iff.mp hrounds

theorem exists_filterMap_eq {β : Type} (f : Party -> Option β) {i : Nat} {x : Party}
    (h : s.parties[i]? = some x) :
    exists before after : List β,
      s.parties.filterMap f = before ++ (f x).toList ++ after ∧
        forall xs, (s.replace i xs).parties.filterMap f = before ++ xs.filterMap f ++ after := by
  rcases exists_parties_eq h with ⟨before, after, hparties, hreplace⟩
  refine ⟨before.filterMap f, after.filterMap f, ?_, ?_⟩
  · rw [hparties, List.filterMap_append, List.filterMap_cons]
    cases f x with
    | none =>
        simp
    | some y =>
        simp
  · intro xs
    rw [hreplace, List.filterMap_append, List.filterMap_append]

theorem filterMap_replace {β : Type} (f : Party -> Option β) {i : Nat} {x : Party} {xs : List Party}
    (h : s.parties[i]? = some x) (hsame : xs.filterMap f = (f x).toList) :
    (s.replace i xs).parties.filterMap f = s.parties.filterMap f := by
  rcases exists_filterMap_eq f h with ⟨before, after, hbefore, hafter⟩
  rw [hafter, hsame, hbefore]

/-- If there is only one of a kind, whoever takes its place are all of that kind. -/
theorem filterMap_replace_of_only {β : Type} (f : Party -> Option β) {i : Nat} {x : Party}
    {y z : β} (xs : List Party) (h : s.parties[i]? = some x) (hx : f x = some y)
    (honly : s.parties.filterMap f = [z]) :
    y = z ∧ (s.replace i xs).parties.filterMap f = xs.filterMap f := by
  rcases exists_filterMap_eq f h with ⟨before, after, hbefore, hafter⟩
  rw [honly, hx] at hbefore
  cases before with
  | cons b bs =>
      simp at hbefore
  | nil =>
      cases after with
      | cons b bs =>
          simp at hbefore
      | nil =>
          simp only [Option.toList_some, List.nil_append, List.append_nil, List.cons.injEq,
            and_true] at hbefore
          refine ⟨hbefore.symm, ?_⟩
          rw [hafter, List.nil_append, List.append_nil]

theorem mem_filterMap_of_getElem? {β : Type} (f : Party -> Option β) {i : Nat} {x : Party} {y : β}
    (h : s.parties[i]? = some x) (hx : f x = some y) : y ∈ s.parties.filterMap f :=
  List.mem_filterMap.mpr ⟨x, List.mem_of_getElem? h, hx⟩

end Traffic

end PoolHealth
