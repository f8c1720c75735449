import PoolHealth.Proofs.Manager.BringingUp

/-!
# Closing all pools

Once a call that closes all pools is over, the manager is closed for good.  Every pool that was
ever registered was asked once to shut itself down, by whichever call it was, and whoever comes
later to bring pools up is turned away.
-/

namespace PoolHealth
namespace Fleet

variable {c : ManagerConfig} {s t u : Fleet} {a : FleetAction} {i : Nat} {k : ManagerCall}
  {p : PoolRef} {x : Site}

/-!
## Sites remain
-/

def Remains (x : Site) (t : Fleet) (p : PoolRef) : Prop :=
  exists y, t.sites[p]? = some y ∧ y.card.builder = x.card.builder ∧
    y.card.definition = x.card.definition

theorem Remains.trans {y : Site} (h : Remains y t p) (hbuilder : y.card.builder = x.card.builder)
    (hdefinition : y.card.definition = x.card.definition) : Remains x t p := by
  rcases h with ⟨z, hz, hzb, hzd⟩
  exact ⟨z, hz, hzb.trans hbuilder, hzd.trans hdefinition⟩

theorem remains_order (hx : s.sites[p]? = some x) (j : Nat) (d : PoolDefinition) :
    Remains x (s.order j d) p := by
  refine ⟨x, ?_, rfl, rfl⟩
  show (s.sites ++ _)[p]? = some x
  rw [List.getElem?_append_left (List.getElem?_eq_some_iff.mp hx).1, hx]

theorem remains_modify {f : Site -> Site} {q : PoolRef} (hx : s.sites[p]? = some x)
    (ht : t.sites = s.sites.modify q f)
    (hf : forall y : Site, (f y).card.builder = y.card.builder ∧
      (f y).card.definition = y.card.definition) : Remains x t p := by
  by_cases hqp : q = p
  · refine ⟨f x, ?_, hf x⟩
    rw [ht, List.getElem?_modify, hx]
    exact congrArg some (if_pos hqp)
  · refine ⟨x, ?_, rfl, rfl⟩
    rw [ht, List.getElem?_modify, hx]
    exact congrArg some (if_neg hqp)

theorem remains_ask (hx : s.sites[p]? = some x) (q : PoolRef) (r : PoolRequest) :
    Remains x (s.ask q r) p := remains_modify hx rfl fun _ => ⟨rfl, rfl⟩

theorem remains_tell (hx : s.sites[p]? = some x) (q : PoolRef) (r : Except PoolError Unit) :
    Remains x (s.tell q r) p := remains_modify hx rfl fun _ => ⟨rfl, rfl⟩

theorem remains_answer (hx : s.sites[p]? = some x) (j : Nat) (r : Except PoolError Unit) :
    Remains x (s.answer j r) p := by
  refine ⟨x.answer j r, ?_, ?_⟩
  · show (s.sites.map _)[p]? = _
    rw [List.getElem?_map, hx]
    rfl
  · unfold Site.answer
    split
    · exact ⟨rfl, rfl⟩
    · exact ⟨rfl, rfl⟩

theorem remains_set {q : PoolRef} {y z : Site} (hx : s.sites[p]? = some x)
    (hy : s.sites[q]? = some y) (hz : z.card = y.card) :
    Remains x { s with sites := s.sites.set q z } p := by
  by_cases hqp : q = p
  · subst hqp
    rw [hx] at hy
    cases hy
    refine ⟨z, List.getElem?_set_self (List.getElem?_eq_some_iff.mp hx).1, ?_⟩
    rw [hz]
    exact ⟨rfl, rfl⟩
  · exact ⟨x, (List.getElem?_set_ne hqp).trans hx, rfl, rfl⟩

theorem Move.remains (h : s.Move a t) (hx : s.sites[p]? = some x) : Remains x t p := by
  cases h with
  | lineUp hticket hbusy | linger hcall hticket hsame | turnedAway hgain haway
  | closing hgain hphase | closed hcall hover | checking | checked hcall
  | closeOver hcall hrunning | checkOver hcall hrunning =>
      exact ⟨x, hx, rfl, rfl⟩
  | proceeds h =>
      rename_i i u st rest
      have hu : Remains x u p := by
        cases h with
        | begun hgain hphase hfault =>
            exact ⟨x, hx, rfl, rfl⟩
        | warmed hcall htell =>
            exact remains_tell hx _ _
      rcases hu with ⟨y, hy, hbuilder, hdefinition⟩
      cases rest with
      | nil =>
          exact ⟨y, hy, hbuilder, hdefinition⟩
      | cons d rest =>
          exact (remains_order hy i d).trans hbuilder hdefinition
  | built hcall hordered =>
      rename_i i d q rest st
      rcases remains_answer hx i (.ok ()) with ⟨y, hy, hbuilder, hdefinition⟩
      exact (remains_ask hy q .warmUp).trans hbuilder hdefinition
  | fails h =>
      rename_i i u e st
      have hu : Remains x u p := by
        cases h with
        | unbuilt hcall =>
            exact remains_answer hx _ _
        | cold hcall htell | undone hcall htell =>
            exact remains_tell hx _ _
      rcases hu with ⟨y, hy, hbuilder, hdefinition⟩
      cases st with
      | nil =>
          exact ⟨y, hy, hbuilder, hdefinition⟩
      | cons z st =>
          exact (remains_ask hy z.2 .shutDown).trans hbuilder hdefinition
  | sendClose hcall hpool hdue | sendCheck hcall hpool hdue =>
      exact remains_ask hx _ _
  | build hy hmade hempty =>
      exact remains_set hx hy rfl
  | inside hy hi hallowed hact =>
      exact remains_set hx hy rfl

def StillLaunched (d : PoolDefinition) (p : PoolRef) (t : Fleet) : Prop :=
  exists card, t.Launched p card ∧ card.definition = d

theorem StillLaunched.step {d : PoolDefinition} (h : StillLaunched d p s)
    (hstep : s.step a = some t) : StillLaunched d p t := by
  rcases h with ⟨card, ⟨j, hj, hmem⟩, rfl⟩
  rcases mem_portfolio.mp hmem with ⟨x, hx, rfl, hbuilder⟩
  rcases (move_of_step hstep).remains hx with ⟨y, hy, hsame, hdefinition⟩
  refine ⟨y.card, ⟨j, stays_over hstep hj rfl, ?_⟩, hdefinition⟩
  exact mem_portfolio.mpr ⟨y, hy, rfl, hsame.trans hbuilder⟩

/-!
## A manager that is closed
-/

theorem Sound.not_proceeds_of_closed {st : List (String × PoolRef)} {rest : List PoolDefinition}
    (h : Sound c s) (hclosed : s.manager.phase = .closed) : ¬s.Proceeds a i u st rest := by
  intro hp
  have hphase := (h.of_proceeds hp).1.phase
  rw [hclosed] at hphase
  cases hphase

theorem Sound.not_fails_of_closed {e : ManagerError} {st : List (String × PoolRef)}
    (h : Sound c s) (hclosed : s.manager.phase = .closed) : ¬s.Fails a i u e st := by
  intro hf
  have hphase := (h.of_fails hf).1.phase
  rw [hclosed] at hphase
  cases hphase

theorem closed_stays (h : Sound c s) (hstep : s.step a = some t)
    (hclosed : s.manager.phase = .closed) : t.manager.phase = .closed := by
  cases move_of_step hstep with
  | proceeds hproceeds =>
      exact absurd hproceeds (h.not_proceeds_of_closed hclosed)
  | fails hfails =>
      exact absurd hfails (h.not_fails_of_closed hclosed)
  | closed hcall hover =>
      rfl
  | lineUp hticket hbusy | linger hcall hticket hsame | turnedAway hgain haway
  | built hcall hordered | closing hgain hphase | checking | checked hcall
  | sendClose hcall hpool hdue | sendCheck hcall hpool hdue | closeOver hcall hrunning
  | checkOver hcall hrunning | build hx hmade hempty | inside hx hi hallowed hact =>
      exact hclosed

theorem Sound.nobody_of_closed (h : Sound c t) (hclosed : t.manager.phase = .closed)
    (hk : k ∈ t.calls) : k.holds = false := by
  rcases List.getElem?_of_mem hk with ⟨j, hj⟩
  have hfits := h.fits j k hj
  cases hholds : k.holds with
  | false =>
      rfl
  | true =>
      cases k with
      | bringUp k =>
          rw [(hfits.2 hholds).1] at hclosed
          cases hclosed
      | closeAll k errands =>
          cases k with
          | closing pools =>
              exact absurd hclosed hfits.2.phase
          | queued ticket =>
              cases hholds
      | broughtUp r | allClosed | checkAll k errands | allChecked k outcomes verdicts =>
          cases hholds

theorem Sound.empty_of_closed (h : Sound c t) (hclosed : t.manager.phase = .closed) :
    t.manager.pools = [] ∧ t.manager.initialized = false := by
  refine (h.tidy fun k hk => ?_).empty ?_
  · exact not_isClosing_of_not_holds (h.nobody_of_closed hclosed hk)
  · rw [hclosed]
    exact nofun

/-- All pools that have been launched were asked once to shut themselves down. -/
theorem Sound.closed_once (h : Sound c t) (hclosed : t.manager.phase = .closed) {card : Card}
    (hcard : t.Launched p card) : card.requests.count .shutDown = 1 := by
  rcases (h.launched p card hcard).2.2 with hone | ⟨_, ⟨name, hpool⟩ | hdue⟩
  · exact hone
  · rw [(h.empty_of_closed hclosed).1] at hpool
    cases hpool
  · rcases hdue with ⟨j, pools, errands, n, name, hj, _, _⟩
    cases h.nobody_of_closed hclosed (List.mem_of_getElem? hj)

theorem Ends.late {r : Except ManagerError Unit} (h : s.Ends a i r t) (hsound : Sound c s)
    (hclosed : s.manager.phase = .closed) : r = .error .alreadyClosed := by
  cases h with
  | away hgain haway =>
      cases haway with
      | late hphase =>
          rfl
      | found hphase | faulty hphase hfault =>
          rw [hclosed] at hphase
          cases hphase
  | complete h =>
      exact absurd h (hsound.not_proceeds_of_closed hclosed)
  | undone h =>
      exact absurd h (hsound.not_fails_of_closed hclosed)

theorem enter_late {lock : Semaphore} (hclosed : s.manager.phase = .closed)
    (hle : i ≤ s.calls.length) :
    (s.followBringUp i (BringUp.enter { s.manager with lifecycle := lock })).calls[i]?
      = some (.broughtUp (.error .alreadyClosed)) := by
  have henter : BringUp.enter { s.manager with lifecycle := lock }
      = BringUp.finish { s.manager with lifecycle := lock } (.error .alreadyClosed) := by
    unfold BringUp.enter
    simp only [hclosed]
  rw [henter]
  exact call_of_put hle rfl

theorem step_closeAll_of_closed {ticket : Ticket}
    {errands : List (Errand (Except PoolError Unit))} (hclosed : s.manager.phase = .closed)
    (hcall : s.calls[i]? = some (.closeAll (.queued ticket) errands))
    (hturn : s.manager.lifecycle.standing ticket = .promised) :
    exists t, s.step (.reply i .stirred) = some t ∧ t.calls[i]? = some .allClosed := by
  have hstep : s.step (.reply i .stirred)
      = some (s.followCloseAll i (CloseAll.enter
          { s.manager with lifecycle := s.manager.lifecycle.collect ticket })) := by
    simp only [step, hcall, allowsClose, if_true, CloseAll.step, hturn]
  refine ⟨_, hstep, ?_⟩
  unfold CloseAll.enter
  rw [if_pos hclosed]
  exact call_of_put (lt_of_call hcall).le rfl

theorem step_closeAll_of_over {pools : List (String × PoolRef)}
    {errands : List (Errand (Except PoolError Unit))}
    (hcall : s.calls[i]? = some (.closeAll (.closing pools) errands))
    (hover : errands.all Errand.isOver = true) :
    exists t, s.step (.reply i .allClosed) = some t ∧ t.calls[i]? = some .allClosed := by
  have hstep : s.step (.reply i .allClosed)
      = some (s.followCloseAll i (CloseAll.step s.manager (.closing pools) .allClosed)) := by
    simp only [step, hcall, allowsClose, hover, if_true]
  exact ⟨_, hstep, call_of_put (lt_of_call hcall).le rfl⟩

/-!
## For good
-/

structure ClosedForGood (log : Log) (t : Fleet) : Prop where
  phase : t.manager.phase = .closed
  pools : t.manager.pools = []
  initialized : t.manager.initialized = false
  /-- Whatever was in the map at any time was asked once to shut itself down. -/
  once : forall e, e ∈ log -> forall name p, (name, p) ∈ e.1.manager.pools ->
    exists x, t.sites[p]? = some x ∧ x.card.definition.name = name ∧
      x.card.requests.count .shutDown = 1
  remains : forall a u, t.step a = some u -> u.manager.phase = .closed
  /-- Calls to bring pools up that end from now on are turned away. -/
  late : forall (a : FleetAction) (u : Fleet) (i : Nat) (r : Except ManagerError Unit),
    t.step a = some u -> t.calls[i]? ≠ u.calls[i]? -> u.calls[i]? = some (.broughtUp r) ->
      r = .error .alreadyClosed
  /-- That happens at once if the lock is free, or else when it is their turn. -/
  atOnce : forall lock, t.manager.lifecycle.tryTake = .taken lock ->
    exists u, t.step (.call .bringUp) = some u ∧
      u.calls[t.calls.length]? = some (.broughtUp (.error .alreadyClosed))
  inTurn : forall (i : Nat) (ticket : Ticket), t.calls[i]? = some (.bringUp (.queued ticket)) ->
    t.manager.lifecycle.standing ticket = .promised ->
      exists u, t.step (.reply i .stirred) = some u ∧
        u.calls[i]? = some (.broughtUp (.error .alreadyClosed))
  alsoClosed : forall (i : Nat) (ticket : Ticket)
    (errands : List (Errand (Except PoolError Unit))),
    t.calls[i]? = some (.closeAll (.queued ticket) errands) ->
      t.manager.lifecycle.standing ticket = .promised ->
        exists u, t.step (.reply i .stirred) = some u ∧ u.calls[i]? = some .allClosed
  /-- As long as anybody waits for the lock, it is the turn of somebody. -/
  someTurn : forall k, k ∈ t.calls -> k.ticket?.isSome = true ->
    exists (j : Nat) (k' : ManagerCall) (ticket : Ticket), t.calls[j]? = some k' ∧
      k'.ticket? = some ticket ∧ t.manager.lifecycle.standing ticket = .promised

theorem Run.closedForGood {log : Log} (h : Run (ofConfig c) log t)
    (hclosed : t.manager.phase = .closed) : ClosedForGood log t where
  phase := hclosed
  pools := (h.sound.empty_of_closed hclosed).1
  initialized := (h.sound.empty_of_closed hclosed).2
  once := by
    intro e he name p hp
    rcases Trace.split h he with ⟨before, later, u, _, hbefore, hstep, hlater⟩
    rcases (Run.sound hbefore).registered name p hp with ⟨card, hcard, hname, _⟩
    -- It was launched then and still is, and all that are launched have been asked by now.
    have hlast : StillLaunched card.definition p t :=
      hlater.invariant StillLaunched.step (StillLaunched.step ⟨card, hcard, rfl⟩ hstep)
    rcases hlast with ⟨card', hcard', hdefinition⟩
    rcases hcard'.site with ⟨x, hx, rfl⟩
    refine ⟨x, hx, ?_, h.sound.closed_once hclosed hcard'⟩
    rw [hdefinition, hname]
  remains := fun _ _ hstep => closed_stays h.sound hstep hclosed
  late := fun _ _ _ _ hstep hnew hend => (ends_of_step hstep hnew hend).late h.sound hclosed
  atOnce := fun _ htaken => ⟨_, step_call_of_taken htaken, enter_late hclosed (Nat.le_refl _)⟩
  inTurn := fun _ _ hcall hturn =>
    ⟨_, step_reply_of_turn hcall hturn, enter_late hclosed (lt_of_call hcall).le⟩
  alsoClosed := fun _ _ _ hcall hturn => step_closeAll_of_closed hclosed hcall hturn
  someTurn := fun _ hk hwaits =>
    h.inOrder.exists_turn (fun _ hk' => h.sound.nobody_of_closed hclosed hk') hk hwaits

end Fleet
end PoolHealth
