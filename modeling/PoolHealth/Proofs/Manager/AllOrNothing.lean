import PoolHealth.Proofs.Manager.BringingUp

/-!
# Bringing up is all or nothing

A call that brings pools up succeeds when there is exactly one pool for each definition, and
each of them has set itself up.  If it fails, nothing is left: the pools that it had started
were shut down again, and the manager is as it was, so that another call may try again.
-/

namespace PoolHealth
namespace Fleet

variable {c : ManagerConfig} {t : Fleet}

structure AllOrNothing (c : ManagerConfig) (t : Fleet) : Prop where
  /-- A call that succeeds leaves one pool for each definition. -/
  complete : forall (a : FleetAction) (u : Fleet) (i : Nat), t.step a = some u ->
    t.calls[i]? ≠ u.calls[i]? -> u.calls[i]? = some (.broughtUp (.ok ())) -> Complete c u
  /-- If the configuration is not accepted the factory is never asked for anything, and no call
  succeeds. -/
  rejected : forall e, c.fault? = some e -> t.sites = [] ∧
    forall (i : Nat) (r : Except ManagerError Unit), t.calls[i]? = some (.broughtUp r) ->
      r = .error e ∨ r = .error .alreadyClosed
  /-- Meanwhile nobody sees anything of it. -/
  underway : forall (i : Nat) (k : BringUp), t.calls[i]? = some (.bringUp k) ->
    (ManagerCall.bringUp k).holds = true -> Bare t.manager
  /-- A call that has failed reports the first definition that failed, with the source.  The
  pools before it were asked once to shut down, whatever they answered, and none behind it was
  ordered. -/
  failed : forall (i : Nat) (e : ManagerError), t.calls[i]? = some (.broughtUp (.error e)) ->
    c.fault? = none -> e ≠ .alreadyClosed ->
      exists (before : List (Placed × Except PoolError Unit)) (d : PoolDefinition)
        (rest : List PoolDefinition) (source : PoolError) (q : PoolRef) (card : Card),
        c.pools = before.map (fun x => x.1.1) ++ d :: rest ∧
          e = .poolInitialization d.name source ∧ Failed i d source card ∧
            t.portfolio i = before.map (left i) ++ [(q, card)]
  /-- As soon as a definition fails, or its pool, it is settled what the call reports. -/
  reports : forall (i : Nat) (d : PoolDefinition) (rest : List PoolDefinition)
    (st : List (String × PoolRef)) (e : PoolError) (u : Fleet),
      (t.calls[i]? = some (.bringUp (.building d rest st)) ∧
          t.step (.reply i (.built (.error e))) = some u ∨
        exists p, t.calls[i]? = some (.bringUp (.warming d p rest st)) ∧
          t.step (.reply i (.warmedUp (.error e))) = some u) ->
        exists k, u.calls[i]? = some k ∧ failure? k = some (.poolInitialization d.name e)
  persists : forall (a : FleetAction) (u : Fleet) (i : Nat) (k : ManagerCall) (e : ManagerError),
    t.step a = some u -> t.calls[i]? = some k -> failure? k = some e ->
      exists k', u.calls[i]? = some k' ∧ failure? k' = some e
  /-- A call that has the lock is over after so many answers. -/
  ends : forall (a : FleetAction) (u : Fleet) (i : Nat) (k : BringUp), t.step a = some u ->
    t.calls[i]? = some (.bringUp k) -> (ManagerCall.bringUp k).holds = true -> a.call? = some i ->
      exists k' n, u.calls[i]? = some k' ∧ Needs n k' ∧ n < toDo k
  /-- Whoever fails leaves the manager as it was, and passes the lock on; it may also have come
  too late. -/
  restored : forall (a : FleetAction) (u : Fleet) (i : Nat) (e : ManagerError),
    t.step a = some u -> t.calls[i]? ≠ u.calls[i]? ->
      u.calls[i]? = some (.broughtUp (.error e)) -> 0 < u.manager.lifecycle.available ∧
        (e = .alreadyClosed ∧ u.manager.phase = .closed ∨ Bare u.manager)
  /-- Another call tries again, at once or when it is its turn. -/
  retry : Bare t.manager -> c.fault? = none ->
    (forall lock, t.manager.lifecycle.tryTake = .taken lock ->
      exists u, t.step (.call .bringUp) = some u ∧
        u.calls[t.calls.length]? = some (firstAttempt c)) ∧
    forall (i : Nat) (ticket : Ticket), t.calls[i]? = some (.bringUp (.queued ticket)) ->
      t.manager.lifecycle.standing ticket = .promised ->
        exists u, t.step (.reply i .stirred) = some u ∧ u.calls[i]? = some (firstAttempt c)
  /-- Connections that were opened for a call that has failed are closed once. -/
  closed : forall (i : Nat) (e : ManagerError) (x : Site) (y : Inside),
    t.calls[i]? = some (.broughtUp (.error e)) -> x ∈ t.sites -> x.card.builder = i ->
      x.inside = some y -> y.Genuine x.card.definition.config ∧
        ((forall z, z ∈ y.traffic.parties -> z.isClosing = false) ->
          y.traffic.parties = [] ∧ y.traffic.pool.idle = [] ∧
            forall d, d ∈ y.traffic.opened -> (y.log.countP fun e => e.1.closes d e.2) = 1)

theorem Run.bringUp_allOrNothing {log : Log} (h : Run (ofConfig c) log t) : AllOrNothing c t where
  complete := by
    intro a u i hstep hnew hend
    exact (ends_of_step hstep hnew hend).complete_of_ok (h.sound.step hstep)
  rejected := by
    intro e hfault
    have hrejected := h.rejected hfault
    refine ⟨hrejected.sites, fun i r hcall => ?_⟩
    cases r with
    | ok _ =>
        exact absurd hcall (hrejected.calls i)
    | error e' =>
        have hundone : Undone c i e' (t.portfolio i) := h.sound.fits i _ hcall
        generalize t.portfolio i = es at hundone
        cases hundone with
        | late =>
            exact Or.inr rfl
        | faulty hfault' =>
            rw [hfault] at hfault'
            cases hfault'
            exact Or.inl rfl
        | rolledBack hfault' hpools hfailed =>
            rw [hfault] at hfault'
            cases hfault'
  underway := fun _ _ hcall hholds => h.sound.bare hcall hholds
  failed := by
    intro i e hcall hfault hnot
    have hundone : Undone c i e (t.portfolio i) := h.sound.fits i _ hcall
    generalize t.portfolio i = es at hundone ⊢
    cases hundone with
    | late =>
        exact absurd rfl hnot
    | faulty hfault' =>
        rw [hfault] at hfault'
        cases hfault'
    | rolledBack hfault' hpools hfailed =>
        exact ⟨_, _, _, _, _, _, hpools, rfl, hfailed, rfl⟩
  reports := by
    rintro i d rest st e u (⟨hcall, hstep⟩ | ⟨p, hcall, hstep⟩)
    · exact failure_of_refused hcall hstep
    · exact failure_of_cold hcall hstep
  persists := fun _ _ _ _ _ hstep hcall hfailure => failure_stays hstep hcall hfailure
  ends := fun _ _ _ _ hstep hcall hholds hsame => needs_less hstep hcall hholds hsame
  restored := by
    intro a u i e hstep hnew hend
    have hends := ends_of_step hstep hnew hend
    exact ⟨hends.available, hends.bare_of_error h.sound⟩
  retry := fun hbare hfault =>
    ⟨fun _ htaken => ⟨_, step_call_of_taken htaken,
        enter_firstAttempt hbare h.sound.config hfault (Nat.le_refl _)⟩,
      fun _ _ hcall hturn => ⟨_, step_reply_of_turn hcall hturn,
        enter_firstAttempt hbare h.sound.config hfault (lt_of_call hcall).le⟩⟩
  closed := fun _ _ x y hcall hx hbuilder hy =>
    ⟨(h.allProper x hx).genuine y hy, h.closed_once_of_failed hcall hx hbuilder hy⟩

def firstPool : PoolDefinition where
  config := { PoolConfig.named "a" with minSize := 1, maxSize := 2 }
  backend := .database "first"

def secondPool : PoolDefinition where
  config := { PoolConfig.named "b" with minSize := 2, maxSize := 2, retryAttempts := 1 }
  backend := .database "second"

def twoPools : ManagerConfig := ⟨[firstPool, secondPool]⟩

/-- The first pool is set up; the second one cannot open its second connection, closes the first
one and gives up.  Then the first pool is shut down again. -/
def secondFails : List FleetAction :=
  [.call .bringUp, .build 0, .reply 0 (.built (.ok 0)), .inside 0 (.reply 0 (.created (.ok ⟨0⟩))),
    .reply 0 (.warmedUp (.ok ())), .build 1, .reply 0 (.built (.ok 1)),
    .inside 1 (.reply 0 (.created (.ok ⟨0⟩))),
    .inside 1 (.reply 0 (.created (.error (.connect "refused")))),
    .inside 1 (.reply 0 (.closed (.ok ()))),
    .reply 0 (.warmedUp (.error (.backend "b" (.connect "refused")))),
    .inside 0 (.retire 0), .inside 0 (.reply 0 .stirred), .inside 0 (.reply 0 (.closed (.ok ()))),
    .reply 0 (.closed (.ok ()))]

def secondFailure : ManagerError := .poolInitialization "b" (.backend "b" (.connect "refused"))

def isSettled (x : Site) : Bool :=
  x.inside.any fun y => y.traffic.parties.isEmpty && !y.traffic.opened.isEmpty

/-- The call fails with the error of the second pool, and both pools are left without
connections. -/
theorem bringUp_allOrNothing_second : twoPools.fault? = none ∧
    exists log t, Run (ofConfig twoPools) log t ∧ log.map (fun e => e.2) = secondFails ∧
      t.calls = [.broughtUp (.error secondFailure)] ∧
        t.sites.map (fun x => x.card.requests) = [[.warmUp, .shutDown], [.warmUp]] ∧
          t.sites.all isSettled = true ∧ AllOrNothing twoPools t := by
  have hany : (run (ofConfig twoPools) secondFails).any (fun t =>
      t.calls = [.broughtUp (.error secondFailure)] ∧
        t.sites.map (fun x => x.card.requests) = [[.warmUp, .shutDown], [.warmUp]] ∧
          t.sites.all isSettled = true) = true := by
    decide +kernel
  rcases Trace.exists_of_any hany with ⟨log, t, h, hactions, hend⟩
  rcases of_decide_eq_true hend with ⟨hcalls, hrequests, hsettled⟩
  exact ⟨by decide +kernel, log, t, h, hactions, hcalls, hrequests, hsettled,
    Run.bringUp_allOrNothing h⟩

end Fleet
end PoolHealth
