/-!
# Traces

A system is a step function: an action in a state leads to another state, or it is not possible
there.  A trace is what happens when actions follow each other; its log has each action with the
state in which it was taken.
-/

namespace PoolHealth

inductive Trace {σ α : Type} (step : σ -> α -> Option σ) : σ -> List (σ × α) -> σ -> Prop where
  | done (s : σ) : Trace step s [] s
  | act {s t u : σ} {a : α} {log : List (σ × α)} :
      step s a = some t -> Trace step t log u -> Trace step s ((s, a) :: log) u

namespace Trace

variable {σ α : Type} {step : σ -> α -> Option σ} {s t u : σ} {log later : List (σ × α)}

/-- What comes of a list of actions, if all of them are possible. -/
def compute (step : σ -> α -> Option σ) (s : σ) : List α -> Option σ
  | [] => some s
  | a :: rest => (step s a).bind fun t => compute step t rest

theorem exists_of_compute {actions : List α} (h : compute step s actions = some t) :
    exists log, Trace step s log t ∧ log.map (fun e => e.2) = actions := by
  induction actions generalizing s with
  | nil =>
      cases h
      exact ⟨[], done _, rfl⟩
  | cons a rest ih =>
      rcases Option.bind_eq_some_iff.mp h with ⟨u, hstep, hrest⟩
      rcases ih hrest with ⟨log, htrace, hactions⟩
      exact ⟨(s, a) :: log, act hstep htrace, by simp [hactions]⟩

/-- What can be computed to come of a list of actions comes of a trace. -/
theorem exists_of_any {actions : List α} {P : σ -> Bool}
    (h : (compute step s actions).any P = true) :
    exists log t, Trace step s log t ∧ log.map (fun e => e.2) = actions ∧ P t = true := by
  rcases (Option.any_eq_true_iff_get P (compute step s actions)).mp h with ⟨hsome, hP⟩
  rcases exists_of_compute (Option.some_get hsome).symm with ⟨log, htrace, hactions⟩
  exact ⟨log, (compute step s actions).get hsome, htrace, hactions, hP⟩

theorem append (h : Trace step s log t) (h' : Trace step t later u) :
    Trace step s (log ++ later) u := by
  induction h with
  | done s =>
      exact h'
  | act hstep _ ih =>
      exact act hstep (ih h')

theorem split {e : σ × α} (h : Trace step s log t) (he : e ∈ log) :
    exists before later u, log = before ++ e :: later ∧ Trace step s before e.1 ∧
      step e.1 e.2 = some u ∧ Trace step u later t := by
  induction h with
  | done s =>
      cases he
  | @act s t u a log hstep hrest ih =>
      rcases List.mem_cons.mp he with rfl | he
      · exact ⟨[], log, t, rfl, done s, hstep, hrest⟩
      · rcases ih he with ⟨before, later, v, hlog, hbefore, hnext, hlater⟩
        refine ⟨(s, a) :: before, later, v, ?_, act hstep hbefore, hnext, hlater⟩
        rw [hlog]
        rfl

/-- What is known of the log and the state at its end is known after every trace, if every action
at the end of a trace keeps it. -/
theorem recorded {I : List (σ × α) -> σ -> Prop} (hstart : I [] s)
    (hkeep : forall {before : List (σ × α)} {t u : σ} {a : α}, Trace step s before t ->
      I before t -> step t a = some u -> I (before ++ [(t, a)]) u)
    (h : Trace step s log t) : I log t := by
  have hfrom : forall {u v : σ} {later : List (σ × α)}, Trace step u later v ->
      forall before, Trace step s before u -> I before u -> I (before ++ later) v := by
    intro u v later hlater
    induction hlater with
    | done u =>
        intro before _ hknown
        rw [List.append_nil]
        exact hknown
    | @act u t v a later hstep _ ih =>
        intro before hbefore hknown
        have hnext := ih (before ++ [(u, a)]) (hbefore.append (act hstep (done t)))
          (hkeep hbefore hknown hstep)
        rw [List.append_assoc] at hnext
        exact hnext
  exact hfrom h [] (done s) hstart

theorem invariant {I : σ -> Prop}
    (hkeep : forall {s t : σ} {a : α}, I s -> step s a = some t -> I t)
    (h : Trace step s log t) (hs : I s) : I t := by
  induction h with
  | done s =>
      exact hs
  | act hstep _ ih =>
      exact ih (hkeep hs hstep)

end Trace
end PoolHealth
