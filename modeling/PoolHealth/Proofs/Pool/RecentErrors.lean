import PoolHealth.Proofs.Pool.Dates
import Mathlib.Data.List.Induction

/-!
# Errors of late

A pool remembers when its latest connection errors happened, but only those of one more than it
tolerates.  That is enough: time does not go backwards, so that an error which is forgotten is not
missed unless there are too many anyway.
-/

namespace PoolHealth

open ConnectionPool Token

variable {law : Law} {now : Instant} {p q : ConnectionPool} {A B : Multiset Token}

namespace ErrorWindow

variable {times : List Instant} {window : Duration}

/-- What is remembered of errors at these times. -/
def ofTimes (times : List Instant) : ErrorWindow := times.foldl record {}

theorem times_ofTimes (times : List Instant) :
    (ofTimes times).times = times.drop (times.length - (tolerated + 1)) := by
  induction times using List.reverseRecOn with
  | nil =>
      rfl
  | append_singleton times now ih =>
      have hlast : (ofTimes (times ++ [now])).times = ((ofTimes times).record now).times :=
        congrArg ErrorWindow.times (List.foldl_concat _ _ _ _)
      rw [hlast]
      unfold record
      rw [ih, List.length_drop, List.length_append, List.length_singleton]
      by_cases hmany : tolerated < times.length
      · have hfirst : times.length - (tolerated + 1) + 1 = times.length + 1 - (tolerated + 1) := by
          omega
        rw [if_pos (by omega), List.drop_drop, hfirst, List.drop_append_of_le_length (by omega)]
      · rw [if_neg (by omega)]
        have hall : times.length - (tolerated + 1) = 0 := by omega
        have hall' : times.length + 1 - (tolerated + 1) = 0 := by omega
        rw [hall, hall']
        rfl

def recent (window : Duration) (now : Instant) (times : List Instant) : List Instant :=
  times.filter fun t => now.nanosSince t < window.nanos

theorem within_eq (w : ErrorWindow) (window : Duration) (now : Instant) :
    w.within window now = (recent window now w.times).length := rfl

/-- Within a window as many errors are remembered as happened there, up to one more than is
tolerated.  The time may be any: an error ahead of it counts like one of that very moment. -/
theorem within_ofTimes (hsorted : times.Pairwise fun t u => t ≤ u) (window : Duration)
    (now : Instant) :
    (ofTimes times).within window now = min (tolerated + 1) (recent window now times).length := by
  rw [within_eq, times_ofTimes]
  generalize hn : times.length - (tolerated + 1) = n
  have hsplit := List.take_append_drop n times
  have hcount : (recent window now times).length =
      (recent window now (times.take n)).length + (recent window now (times.drop n)).length := by
    rw [← List.length_append]
    unfold recent
    rw [← List.filter_append, hsplit]
  by_cases hold : recent window now (times.take n) = []
  · have hfew : (recent window now (times.drop n)).length ≤ (times.drop n).length :=
      List.length_filter_le _ _
    rw [List.length_drop] at hfew
    rw [hcount, hold, List.length_nil, Nat.zero_add, Nat.min_eq_right (by omega)]
  · -- A recent error is forgotten, and all that are remembered are later.
    rcases List.exists_mem_of_ne_nil _ hold with ⟨t, ht⟩
    rcases List.mem_filter.mp ht with ⟨htaken, hrecent⟩
    have hall : recent window now (times.drop n) = times.drop n := by
      rw [← hsplit, List.pairwise_append] at hsorted
      apply List.filter_eq_self.mpr
      intro u hu
      have hle : t.nanos ≤ u.nanos := hsorted.2.2 t htaken u hu
      rw [decide_eq_true_eq] at hrecent ⊢
      unfold Instant.nanosSince at hrecent ⊢
      omega
    have htaken' := List.length_pos_of_mem htaken
    rw [hcount, hall, List.length_drop]
    rw [List.length_take] at htaken'
    omega

theorem within_le_tolerated_iff (hsorted : times.Pairwise fun t u => t ≤ u) (window : Duration)
    (now : Instant) :
    (ofTimes times).within window now ≤ tolerated <->
      (recent window now times).length ≤ tolerated := by
  rw [within_ofTimes hsorted]
  omega

end ErrorWindow

namespace ConnectionPool

def recordErrors (p : ConnectionPool) (times : List Instant) : ConnectionPool :=
  times.foldl recordError p

theorem recordErrors_append (p : ConnectionPool) (times others : List Instant) :
    p.recordErrors (times ++ others) = (p.recordErrors times).recordErrors others :=
  List.foldl_append

def errorReport (p : ConnectionPool) : PoolEvent :=
  .measured (.increment Metrics.connectionErrorsTotal p.labels)

theorem recordErrors_eq (p : ConnectionPool) (times : List Instant) :
    p.recordErrors times =
      { p with
        stats := { p.stats with errors := p.stats.errors + times.length }
        errors := times.foldl ErrorWindow.record p.errors
        outbox := p.outbox ++ List.replicate times.length p.errorReport } := by
  induction times generalizing p with
  | nil =>
      simp [recordErrors]
  | cons now rest ih =>
      have hlater : p.recordErrors (now :: rest) = (p.recordError now).recordErrors rest := rfl
      have hreport : (p.recordError now).errorReport = p.errorReport := rfl
      have hcount : p.stats.errors + 1 + rest.length = p.stats.errors + (rest.length + 1) := by
        omega
      rw [hlater, ih, hreport, List.length_cons, List.replicate_succ]
      simp [recordError, errorReport, hcount]

end ConnectionPool

/-!
## Changes of a pool
-/

/-- Errors are counted and remembered together. -/
def Errs (now : Instant) (p q : ConnectionPool) : Prop :=
  q.errors =
      (List.replicate (q.stats.errors - p.stats.errors) now).foldl ErrorWindow.record p.errors ∧
    p.stats.errors ≤ q.stats.errors

theorem Errs.of_eq (herrors : q.errors = p.errors) (hcount : q.stats.errors = p.stats.errors) :
    Errs now p q := by
  unfold Errs
  rw [hcount, Nat.sub_self, herrors]
  exact ⟨rfl, Nat.le_refl _⟩

theorem Errs.trans {r : ConnectionPool} (h : Errs now p q) (h' : Errs now q r) : Errs now p r := by
  rcases h with ⟨herrors, hle⟩
  rcases h' with ⟨herrors', hle'⟩
  have hsum : r.stats.errors - p.stats.errors =
      (q.stats.errors - p.stats.errors) + (r.stats.errors - q.stats.errors) := by omega
  refine ⟨?_, Nat.le_trans hle hle'⟩
  rw [hsum, ← List.replicate_append_replicate, List.foldl_append, ← herrors]
  exact herrors'

theorem Change.errs (h : Change law now p A q B) : Errs now p q := by
  cases h with
  | error =>
      refine ⟨?_, Nat.le_succ _⟩
      have hone : (p.recordError now).stats.errors - p.stats.errors = 1 :=
        Nat.add_sub_cancel_left _ _
      rw [hone]
      rfl
  | evict =>
      rw [takeExpired_eq]
      exact .of_eq rfl rfl
  | landIdle | openFailed | refillFailed | handBack | forget =>
      rw [releaseSlot_eq]
      exact .of_eq rfl rfl
  | giveBack | strand =>
      rw [giveBack_eq]
      refine .of_eq rfl ?_
      split
      · rfl
      · rfl
  | warmed =>
      rw [WarmUp.furnish_eq]
      exact .of_eq rfl rfl
  | leaveLine =>
      rw [leaveSlotQueue_eq]
      exact .of_eq rfl rfl
  | leaveLockLine =>
      rw [leaveLockQueue_eq]
      exact .of_eq rfl rfl
  | unlock | abandonLock =>
      rw [releaseLock_eq]
      exact .of_eq rfl rfl
  | _ =>
      exact .of_eq rfl rfl

theorem Changes.errs (h : Changes law now p A q B) : Errs now p q := by
  induction h with
  | refl p A =>
      exact .of_eq rfl rfl
  | step F hfirst _ ih =>
      exact hfirst.errs.trans ih

/-!
## All runs
-/

namespace Traffic

variable {c : PoolConfig} {s t : Traffic} {a : Action} {log : Log}

def newErrors (e : Traffic × Action) : Nat :=
  (e.1.step e.2).elim 0 fun t => t.pool.stats.errors - e.1.pool.stats.errors

def errorTimes (log : Log) : List Instant :=
  log.flatMap fun e => List.replicate (newErrors e) e.1.now

theorem errs_step (hs : s.Settled) (hstep : s.step a = some t) : Errs s.now s.pool t.pool := by
  have hchanges : Changes .any s.now s.pool (s.held + raws a.arrivals) t.pool t.held :=
    changes_step hs (fun _ => trivial) (fun _ _ => trivial) hstep
  exact hchanges.errs

theorem Run.errors_eq (h : Run s log t) (hs : s.Settled) :
    t.pool.errors = (errorTimes log).foldl ErrorWindow.record s.pool.errors ∧
      t.pool.stats.errors = s.pool.stats.errors + (errorTimes log).length := by
  induction h with
  | done s =>
      exact ⟨rfl, rfl⟩
  | @act s t u a log hstep _ ih =>
      rcases errs_step hs hstep with ⟨herrors, hle⟩
      rcases ih (settled_step hs hstep) with ⟨hlater, hcount⟩
      have hnew : newErrors (s, a) = t.pool.stats.errors - s.pool.stats.errors := by
        unfold newErrors
        rw [hstep]
        rfl
      have htimes : errorTimes ((s, a) :: log) =
          List.replicate (t.pool.stats.errors - s.pool.stats.errors) s.now ++ errorTimes log := by
        rw [← hnew]
        rfl
      rw [htimes, List.foldl_append, ← herrors, List.length_append, List.length_replicate]
      exact ⟨hlater, by omega⟩

theorem Run.sorted_errorTimes (h : Run s log t) :
    (errorTimes log).Pairwise (fun u v => u ≤ v) ∧ forall u, u ∈ errorTimes log -> s.now ≤ u := by
  induction h with
  | done s =>
      exact ⟨List.Pairwise.nil, fun _ hu => nomatch hu⟩
  | @act s t u a log hstep _ ih =>
      rcases ih with ⟨hsorted, hlater⟩
      have hfrom : forall v, v ∈ errorTimes log -> s.now ≤ v := fun v hv =>
        Nat.le_trans (now_le_of_step hstep) (hlater v hv)
      have hsame : forall v, v ∈ List.replicate (newErrors (s, a)) s.now -> v = s.now := fun v hv =>
        List.eq_of_mem_replicate hv
      constructor
      · refine List.pairwise_append.mpr ⟨?_, hsorted, ?_⟩
        · exact List.pairwise_replicate.mpr (Or.inr (Nat.le_refl _))
        · intro v hv w hw
          rw [hsame v hv]
          exact hfrom w hw
      · intro v hv
        rcases List.mem_append.mp hv with hv | hv
        · rw [hsame v hv]
          exact Nat.le_refl _
        · exact hfrom v hv

theorem Run.errors_eq_ofTimes (h : Run (ofConfig c) log t) :
    t.pool.errors = ErrorWindow.ofTimes (errorTimes log) :=
  (h.errors_eq (settled_ofConfig c)).1

/-- Few errors of late are remembered if and only if few happened. -/
theorem Run.within_le_tolerated_iff (h : Run (ofConfig c) log t) (window : Duration)
    (now : Instant) :
    t.pool.errors.within window now ≤ ErrorWindow.tolerated <->
      (ErrorWindow.recent window now (errorTimes log)).length ≤ ErrorWindow.tolerated := by
  rw [h.errors_eq_ofTimes]
  exact ErrorWindow.within_le_tolerated_iff h.sorted_errorTimes.1 window now

end Traffic

/-!
## What is remembered stands for all
-/

namespace ErrorWindow

variable {times : List Instant}

/-- For all that is asked of it, the window is as good as the list of all errors. -/
structure StandsFor (w : ErrorWindow) (times : List Instant) : Prop where
  length_le : w.times.length ≤ tolerated + 1
  within : forall window now,
    w.within window now = min (tolerated + 1) (recent window now times).length
  verdict : forall window now,
    w.within window now ≤ tolerated <-> (recent window now times).length ≤ tolerated

theorem standsFor_ofTimes (hsorted : times.Pairwise fun t u => t ≤ u) :
    (ofTimes times).StandsFor times where
  length_le := by
    rw [times_ofTimes, List.length_drop]
    omega
  within := within_ofTimes hsorted
  verdict := within_le_tolerated_iff hsorted

theorem StandsFor.fewErrors (h : p.errors.StandsFor times) (now : Instant) :
    Checkup.fewErrors p now =
      decide ((recent p.config.healthCheckInterval now times).length ≤ tolerated) :=
  decide_eq_decide.mpr (h.verdict _ now)

/-- A pool notes its errors as time goes by, and remembers no more than it has to.  Of those that
happened within a window it finds all, or one more than it tolerates if there are more than that;
so it is as healthy as if it remembered everything.  The same goes for whatever a pool has been
through, and for each moment of it. -/
theorem remembers_enough :
    (forall (p : ConnectionPool) (times : List Instant), p.errors = {} ->
      (times.Pairwise fun t u => t ≤ u) ->
        (p.recordErrors times).errors.StandsFor times ∧
        forall now, Checkup.fewErrors (p.recordErrors times) now =
          decide ((recent p.config.healthCheckInterval now times).length ≤ tolerated)) ∧
    forall c log t, Traffic.Run (.ofConfig c) log t ->
      t.pool.errors.StandsFor (Traffic.errorTimes log) ∧
      forall now, Checkup.fewErrors t.pool now =
        decide ((recent t.pool.config.healthCheckInterval now
          (Traffic.errorTimes log)).length ≤ tolerated) := by
  constructor
  · intro p times hnone hsorted
    have hstands : (p.recordErrors times).errors.StandsFor times := by
      rw [recordErrors_eq, hnone]
      exact standsFor_ofTimes hsorted
    have hconfig : (p.recordErrors times).config = p.config := by
      rw [recordErrors_eq]
    refine ⟨hstands, fun now => ?_⟩
    rw [hstands.fewErrors now, hconfig]
  · intro c log t h
    have hstands : t.pool.errors.StandsFor (Traffic.errorTimes log) := by
      rw [h.errors_eq_ofTimes]
      exact standsFor_ofTimes h.sorted_errorTimes.1
    exact ⟨hstands, hstands.fewErrors⟩

/-- An error just as long ago as the window is wide, one that is a little younger, and four more. -/
def oneAtTheEdge : List Instant :=
  [.ofMillis 10000, .ofMillis 10001] ++ List.replicate 4 (.ofMillis 70000)

/-- Five errors of the last minute are tolerated.  With two more there are seven, of which six are
found. -/
theorem remembers_enough_at_the_edge :
    let p := ConnectionPool.ofConfig (.named "p")
    let now := Instant.ofMillis 70000
    p.errors = {} ∧ (oneAtTheEdge.Pairwise fun t u => t ≤ u) ∧
      (p.recordErrors oneAtTheEdge).errors.within (.ofSecs 60) now = 5 ∧
      Checkup.fewErrors (p.recordErrors oneAtTheEdge) now = true ∧
      ((oneAtTheEdge ++ [now, now]).Pairwise fun t u => t ≤ u) ∧
      (p.recordErrors (oneAtTheEdge ++ [now, now])).errors.within (.ofSecs 60) now = 6 ∧
      Checkup.fewErrors (p.recordErrors (oneAtTheEdge ++ [now, now])) now = false := by
  intro p now
  have hsorted : oneAtTheEdge.Pairwise fun t u => t ≤ u := by decide
  have hsorted' : (oneAtTheEdge ++ [now, now]).Pairwise fun t u => t ≤ u := by decide
  rcases remembers_enough.1 p _ rfl hsorted with ⟨hstands, hfew⟩
  rcases remembers_enough.1 p _ rfl hsorted' with ⟨hstands', hfew'⟩
  refine ⟨rfl, hsorted, ?_, ?_, hsorted', ?_, ?_⟩
  · rw [hstands.within]
    decide
  · rw [hfew]
    decide
  · rw [hstands'.within]
    decide
  · rw [hfew']
    decide

end ErrorWindow
end PoolHealth
