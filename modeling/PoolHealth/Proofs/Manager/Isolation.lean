import PoolHealth.Proofs.Manager.CheckingAll
import PoolHealth.Proofs.Manager.ClosingAll

/-!
# Pools are isolated from each other

What one pool does has no influence on what becomes of the others.  When all pools are closed
each of them is asked once, whatever any of them answers; when all pools are checked each of
them gets its own verdict.
-/

namespace PoolHealth
namespace Fleet

variable {c : ManagerConfig} {s t : Fleet} {log : Log}

structure Judged (s : Fleet) (after : Log) (outcomes : List (Option Bool))
    (verdicts : List (String × Bool)) : Prop where
  /-- There is one verdict for each pool that was registered when the check began. -/
  names : verdicts.map (fun e => e.1) = s.manager.names
  distinct : s.manager.names.Nodup
  entries : forall (j : Nat) (name : String) (p : PoolRef), s.manager.pools[j]? = some (name, p) ->
    exists o : Option Bool, outcomes[j]? = some o ∧ verdicts[j]? = some (name, o.getD false)
  /-- The outcome for a pool is what it has answered to this check; if it broke down there is
  none. -/
  told : forall (j : Nat) (o : Option Bool), outcomes[j]? = some o <->
    exists e, e ∈ after ∧ e.2 = .checked s.calls.length j o

structure PoolsIsolated (log : Log) (t : Fleet) : Prop where
  closed : forall i : Nat, t.calls[i]? = some .allClosed -> ClosedForGood log t
  /-- A call is over when all pools have answered or broken down, whatever they answered. -/
  closes : forall (i : Nat) (pools : List (String × PoolRef))
    (errands : List (Errand (Except PoolError Unit))),
      t.calls[i]? = some (.closeAll (.closing pools) errands) ->
        errands.all Errand.isOver = true ->
          exists u, t.step (.reply i .allClosed) = some u ∧ u.calls[i]? = some .allClosed
  judged : forall (u : Fleet) (after : Log) (v : Fleet) (k : CheckAll)
    (outcomes : List (Option Bool)) (verdicts : List (String × Bool)),
      t.step (.call .checkAll) = some u -> Run u after v ->
        v.calls[t.calls.length]? = some (.allChecked k outcomes verdicts) ->
          Judged t after outcomes verdicts
  judges : forall (i : Nat) (k : CheckAll) (outcomes : List (Option Bool)),
    t.calls[i]? = some (.checkAll k (outcomes.map .ended)) ->
      exists u, t.step (.reply i (.allChecked outcomes)) = some u ∧
        u.calls[i]? = some (.allChecked k outcomes (k.verdicts outcomes))
  /-- If checks of pools with the same names differ in the outcome for one pool only, then they
  differ in the verdict on that pool only. -/
  apart : forall (c' : ManagerConfig) (log' : Log) (t' : Fleet) (i i' : Nat) (k k' : CheckAll)
    (outcomes outcomes' : List (Option Bool)) (verdicts verdicts' : List (String × Bool))
    (j : Nat), Run (ofConfig c') log' t' ->
      t.calls[i]? = some (.allChecked k outcomes verdicts) ->
        t'.calls[i']? = some (.allChecked k' outcomes' verdicts') ->
          (k.pools.map fun e => e.1) = (k'.pools.map fun e => e.1) ->
            (forall m, m ≠ j -> outcomes[m]? = outcomes'[m]?) ->
              forall m, m ≠ j -> verdicts[m]? = verdicts'[m]?

theorem Run.judged {u v : Fleet} {after : Log} {k : CheckAll} {outcomes : List (Option Bool)}
    {verdicts : List (String × Bool)} (h : Run (ofConfig c) log s)
    (hstep : s.step (.call .checkAll) = some u) (hafter : Run u after v)
    (hend : v.calls[s.calls.length]? = some (.allChecked k outcomes verdicts)) :
    Judged s after outcomes verdicts := by
  have hcall : u.calls[s.calls.length]?
      = some (.checkAll ⟨s.manager.pools⟩ (s.manager.pools.map fun _ => .due)) := by
    cases hstep
    exact call_of_put (Nat.le_refl _) rfl
  rcases hafter.outcomes_of_check hcall hend with ⟨rfl, rfl, hlength, houtcomes⟩
  rw [List.length_map] at hlength
  refine ⟨map_fst_verdicts hlength, h.sound.names, ?_, ?_⟩
  · intro j name p hpool
    have hlt : j < outcomes.length := by
      rw [hlength]
      exact (List.getElem?_eq_some_iff.mp hpool).1
    have ho := List.getElem?_eq_getElem hlt
    exact ⟨_, ho, getElem?_verdicts hpool ho⟩
  · intro j o
    rw [houtcomes, List.getElem?_map]
    simp

theorem Sound.verdicts_eq {i : Nat} {k : CheckAll} {outcomes : List (Option Bool)}
    {verdicts : List (String × Bool)} (h : Sound c t)
    (hcall : t.calls[i]? = some (.allChecked k outcomes verdicts)) :
    verdicts = k.verdicts outcomes := (h.fits i _ hcall).2.2

theorem Run.pools_isolated (h : Run (ofConfig c) log t) : PoolsIsolated log t where
  closed := fun i hcall => h.closedForGood (h.sound.fits i _ hcall).2
  closes := fun _ _ _ hcall hover => step_closeAll_of_over hcall hover
  judged := fun _ _ _ _ _ _ hstep hafter hend => h.judged hstep hafter hend
  judges := by
    intro i k outcomes hcall
    have hstep : t.step (.reply i (.allChecked outcomes))
        = some (t.put i (.allChecked k outcomes (k.verdicts outcomes))) := by
      simp only [step, hcall, if_true]
    exact ⟨_, hstep, call_of_put (lt_of_call hcall).le rfl⟩
  apart := by
    intro c' log' t' i i' k k' outcomes outcomes' verdicts verdicts' j h' hcall hcall' hnames
      hsame m hm
    rw [h.sound.verdicts_eq hcall, h'.sound.verdicts_eq hcall']
    exact verdicts_congr hnames (hsame m hm)

def cacheAndHttp : ManagerConfig where
  pools := [⟨PoolConfig.named "cache", .cache "main"⟩, ⟨PoolConfig.named "http", .http "api"⟩]

def checkOfBoth : CheckAll := ⟨[("cache", 0), ("http", 1)]⟩

/-- Both pools are brought up and checked, and the check of the second one breaks down.  Then two
calls close all pools; the second pool breaks down again, and the first one fails.  At last
somebody tries to bring the pools up again. -/
def breakdowns : List FleetAction :=
  [.call .bringUp, .reply 0 (.built (.ok 0)), .reply 0 (.warmedUp (.ok ())),
    .reply 0 (.built (.ok 1)), .reply 0 (.warmedUp (.ok ())),
    .call .checkAll, .send 1 0, .send 1 1, .checked 1 1 none, .checked 1 0 (some true),
    .reply 1 (.allChecked [some true, none]),
    .call .closeAll, .call .closeAll, .send 2 1, .send 2 0, .closed 2 1 none,
    .closed 2 0 (some (.error (.notInitialized "cache"))), .reply 2 .allClosed,
    .reply 3 .stirred, .call .bringUp]

/-- The first check finds out, both pools are asked once to shut down, and nobody brings them up
again. -/
theorem pools_isolated_breakdowns : exists log t, Run (ofConfig cacheAndHttp) log t ∧
    log.map (fun e => e.2) = breakdowns ∧
      t.calls = [.broughtUp (.ok ()),
        .allChecked checkOfBoth [some true, none] [("cache", true), ("http", false)],
        .allClosed, .allClosed, .broughtUp (.error .alreadyClosed)] ∧
      t.sites.map (fun x => x.card.requests)
        = [[.warmUp, .checkup, .shutDown], [.warmUp, .checkup, .shutDown]] ∧
      PoolsIsolated log t := by
  have hany : (run (ofConfig cacheAndHttp) breakdowns).any (fun t =>
      t.calls = [.broughtUp (.ok ()),
        .allChecked checkOfBoth [some true, none] [("cache", true), ("http", false)],
        .allClosed, .allClosed, .broughtUp (.error .alreadyClosed)] ∧
      t.sites.map (fun x => x.card.requests)
        = [[.warmUp, .checkup, .shutDown], [.warmUp, .checkup, .shutDown]]) = true := by
    decide +kernel
  rcases Trace.exists_of_any hany with ⟨log, t, h, hactions, hend⟩
  rcases of_decide_eq_true hend with ⟨hcalls, hrequests⟩
  exact ⟨log, t, h, hactions, hcalls, hrequests, Run.pools_isolated h⟩

end Fleet
end PoolHealth
