import PoolHealth.Proofs.Manager.Errands

/-!
# Checking all pools

A call that checks all pools asks those that it finds in the map.  Its verdict on a pool depends
on nothing but the answer to that errand, whichever answers come first; a pool that breaks down
is judged like one that answers no.
-/

namespace PoolHealth
namespace Fleet

variable {c : ManagerConfig} {s t u : Fleet} {a : FleetAction} {i j : Nat} {k : CheckAll}
  {errands : List (Errand Bool)} {outcomes : List (Option Bool)}

/-!
## Verdicts
-/

theorem verdicts_eq (k : CheckAll) (outcomes : List (Option Bool)) :
    k.verdicts outcomes
      = ((k.pools.map fun e => e.1).zip outcomes).map fun e => (e.1, e.2.getD false) := by
  unfold CheckAll.verdicts
  rw [List.zip_map_left, List.map_map]
  rfl

theorem map_fst_verdicts (h : outcomes.length = k.pools.length) :
    (k.verdicts outcomes).map (fun e => e.1) = k.pools.map fun e => e.1 := by
  have hzip : (((k.pools.map fun e => e.1).zip outcomes).map fun e => e.1)
      = k.pools.map fun e => e.1 := by
    apply List.map_fst_zip
    rw [List.length_map, h]
  rw [verdicts_eq, List.map_map]
  exact hzip

theorem getElem?_verdicts {name : String} {p : PoolRef} {o : Option Bool}
    (hpool : k.pools[j]? = some (name, p)) (ho : outcomes[j]? = some o) :
    (k.verdicts outcomes)[j]? = some (name, o.getD false) := by
  unfold CheckAll.verdicts
  rw [List.getElem?_map, (List.getElem?_zip_eq_some (z := ((name, p), o))).mpr ⟨hpool, ho⟩]
  rfl

/-- A verdict depends on the outcome for that pool only. -/
theorem verdicts_congr {k' : CheckAll} {outcomes' : List (Option Bool)}
    (hnames : (k.pools.map fun e => e.1) = k'.pools.map fun e => e.1)
    (h : outcomes[j]? = outcomes'[j]?) :
    (k.verdicts outcomes)[j]? = (k'.verdicts outcomes')[j]? := by
  rw [verdicts_eq, verdicts_eq, hnames, List.getElem?_map, List.getElem?_map, List.zip_eq_zipWith,
    List.zip_eq_zipWith, List.getElem?_zipWith', List.getElem?_zipWith', h]

/-!
## How a check goes on
-/

/-- What an action can do to a call that checks all pools. -/
inductive CheckMove (i : Nat) (k : CheckAll) (errands : List (Errand Bool)) :
    FleetAction -> ManagerCall -> Prop where
  | rest {a : FleetAction} (hother : forall j o, a ≠ .checked i j o) :
      CheckMove i k errands a (.checkAll k errands)
  | send {j : Nat} (hdue : errands[j]? = some .due) :
      CheckMove i k errands (.send i j) (.checkAll k (errands.set j .running))
  | told {j : Nat} {o : Option Bool} (hrunning : errands[j]? = some .running) :
      CheckMove i k errands (.checked i j o) (.checkAll k (errands.set j (.ended o)))
  | done {outcomes : List (Option Bool)} (hover : errands = outcomes.map .ended) :
      CheckMove i k errands (.reply i (.allChecked outcomes))
        (.allChecked k outcomes (k.verdicts outcomes))

theorem checkMove_of_step (hstep : s.step a = some t)
    (hcall : s.calls[i]? = some (.checkAll k errands)) :
    exists k', t.calls[i]? = some k' ∧ CheckMove i k errands a k' := by
  have hput : forall k', (s.put i k').calls[i]? = some k' :=
    fun _ => call_of_put (lt_of_call hcall).le rfl
  by_cases hsame : a.call? = some i
  · cases a with
    | reply n r =>
        cases hsame
        simp only [step, hcall] at hstep
        split at hstep
        · rename_i hbringUp
          cases hbringUp
        · rename_i hcloseAll
          cases hcloseAll
        · rename_i k' errands' outcomes hcheckAll
          cases hcheckAll
          split at hstep
          · rename_i hover
            cases hstep
            exact ⟨_, hput _, .done hover⟩
          · cases hstep
        · cases hstep
    | send n j =>
        cases hsame
        simp only [step, hcall] at hstep
        split at hstep
        · rename_i hdue
          cases hstep
          exact ⟨_, hput _, .send hdue⟩
        · cases hstep
    | checked n j o =>
        cases hsame
        simp only [step, hcall] at hstep
        split at hstep
        · rename_i hrunning
          cases hstep
          exact ⟨_, hput _, .told hrunning⟩
        · cases hstep
    | closed n j answer =>
        cases hsame
        simp only [step, hcall] at hstep
        cases hstep
    | call r | build p | inside p b =>
        cases hsame
  · refine ⟨_, stays_of_other hstep hcall hsame, .rest ?_⟩
    rintro j o rfl
    exact hsame rfl

theorem getElem?_set_ended_iff {n : Nat} {o' : Option Bool}
    (hrunning : errands[n]? = some .running) (j : Nat) (o : Option Bool) :
    (errands.set n (.ended o'))[j]? = some (.ended o) <->
      errands[j]? = some (.ended o) ∨ FleetAction.checked i n o' = .checked i j o := by
  by_cases hnj : n = j
  · subst hnj
    rw [List.getElem?_set_self (List.getElem?_eq_some_iff.mp hrunning).1, hrunning]
    simp
  · rw [List.getElem?_set_ne hnj]
    simp [hnj]

theorem getElem?_set_running_iff {n : Nat} (hdue : errands[n]? = some .due) (j : Nat)
    (o : Option Bool) :
    (errands.set n .running)[j]? = some (.ended o) <-> errands[j]? = some (.ended o) := by
  by_cases hnj : n = j
  · subst hnj
    rw [List.getElem?_set_self (List.getElem?_eq_some_iff.mp hdue).1, hdue]
    exact iff_of_false nofun nofun
  · rw [List.getElem?_set_ne hnj]

/-- The errands that are over afterwards are those that were over, and the one that is heard. -/
theorem CheckMove.cases {k' : ManagerCall} (h : CheckMove i k errands a k') :
    (exists errands', k' = .checkAll k errands' ∧ errands'.length = errands.length ∧
      forall j o, errands'[j]? = some (.ended o) <->
        errands[j]? = some (.ended o) ∨ a = .checked i j o) ∨
      exists outcomes, k' = .allChecked k outcomes (k.verdicts outcomes) ∧
        errands = outcomes.map .ended ∧ forall j o, a ≠ .checked i j o := by
  cases h with
  | rest hother =>
      exact Or.inl ⟨errands, rfl, rfl, fun j o => by simp [hother]⟩
  | send hdue =>
      refine Or.inl ⟨_, rfl, List.length_set, fun j o => ?_⟩
      rw [getElem?_set_running_iff hdue]
      simp
  | told hrunning =>
      exact Or.inl ⟨_, rfl, List.length_set, getElem?_set_ended_iff hrunning⟩
  | done hover =>
      exact Or.inr ⟨_, rfl, hover, nofun⟩

theorem not_checked_of_over {k' : ManagerCall} {o : Option Bool} (hcall : s.calls[i]? = some k')
    (hover : k'.isOver = true) : s.step (.checked i j o) ≠ some t := by
  intro hstep
  cases k' with
  | broughtUp r | allClosed | allChecked k outcomes verdicts =>
      simp only [step, hcall] at hstep
      cases hstep
  | bringUp k | closeAll k errands | checkAll k errands =>
      cases hover

theorem Run.stays_over {log : Log} {k' : ManagerCall} (h : Run s log t)
    (hcall : s.calls[i]? = some k') (hover : k'.isOver = true) :
    t.calls[i]? = some k' ∧ forall j o e, e ∈ log -> e.2 ≠ .checked i j o := by
  induction h with
  | done s =>
      exact ⟨hcall, fun _ _ _ he => nomatch he⟩
  | act hstep hrest ih =>
      rcases ih (Fleet.stays_over hstep hcall hover) with ⟨hlast, hnothing⟩
      refine ⟨hlast, ?_⟩
      intro j o e he hchecked
      rcases List.mem_cons.mp he with rfl | he
      · cases hchecked
        exact not_checked_of_over hcall hover hstep
      · exact hnothing j o e he hchecked

/-- In the end the outcomes are the answers to the errands, whatever their order. -/
theorem Run.outcomes_of_check {log : Log} {k' : CheckAll} {verdicts : List (String × Bool)}
    (h : Run s log t) (hcall : s.calls[i]? = some (.checkAll k errands))
    (hend : t.calls[i]? = some (.allChecked k' outcomes verdicts)) :
    k' = k ∧ verdicts = k.verdicts outcomes ∧ outcomes.length = errands.length ∧
      forall j o, outcomes[j]? = some o <->
        errands[j]? = some (.ended o) ∨ exists e, e ∈ log ∧ e.2 = .checked i j o := by
  -- Each errand that is answered moves from the log to the errands of the next state.
  induction h generalizing errands with
  | done s =>
      rw [hcall] at hend
      cases hend
  | @act s u t a log hstep hrest ih =>
      rcases checkMove_of_step hstep hcall with ⟨k'', hu, hmove⟩
      rcases hmove.cases with ⟨errands', rfl, hsame, hover⟩ | ⟨outcomes', rfl, hover, hnot⟩
      · rcases ih hu hend with ⟨hk, hverdicts, hlength, houtcomes⟩
        refine ⟨hk, hverdicts, hlength.trans hsame, fun j o => ?_⟩
        rw [houtcomes, hover, or_assoc]
        simp
      · rcases Run.stays_over hrest hu rfl with ⟨hlast, hnothing⟩
        rw [hend] at hlast
        cases hlast
        refine ⟨rfl, rfl, by rw [hover, List.length_map], fun j o => ?_⟩
        have hnone : ¬exists e, e ∈ (s, a) :: log ∧ e.2 = .checked i j o := by
          rintro ⟨e, he, hchecked⟩
          rcases List.mem_cons.mp he with rfl | he
          · exact hnot j o hchecked
          · exact hnothing j o e he hchecked
        rw [or_iff_left hnone, hover, List.getElem?_map]
        simp

end Fleet
end PoolHealth
