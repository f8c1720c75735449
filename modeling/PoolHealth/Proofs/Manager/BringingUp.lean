import PoolHealth.Proofs.Manager.Insides

/-!
# Bringing pools up

A call that brings pools up ends when all of them have set themselves up, when the first failure
is rolled back, or at once if it comes too late.  Whatever it does, it is told an answer at a
time, and there are only so many left.
-/

namespace PoolHealth
namespace Fleet

variable {c : ManagerConfig} {s t u : Fleet} {a : FleetAction} {i : Nat} {k : ManagerCall}
  {r : Except ManagerError Unit}

/-!
## How a call ends
-/

/-- What happens when a call that brings pools up ends, and what it ends with. -/
inductive Ends (s : Fleet) (a : FleetAction) (i : Nat) :
    Except ManagerError Unit -> Fleet -> Prop where
  | away {lock : Semaphore} {r : Except ManagerError Unit} (hgain : s.Gains a i lock)
      (haway : TurnedAway s.manager (.broughtUp r)) :
      Ends s a i r ((s.taking lock).releasing.put i (.broughtUp r))
  | complete {u : Fleet} {st : List (String × PoolRef)} (h : s.Proceeds a i u st []) :
      Ends s a i (.ok ()) (u.followBringUp i (BringUp.complete u.manager st))
  | undone {u : Fleet} {e : ManagerError} (h : s.Fails a i u e []) :
      Ends s a i (.error e) (u.followBringUp i (BringUp.finish u.manager (.error e)))

theorem changed_of_put {j : Nat} {k' : ManagerCall} (hle : j ≤ s.calls.length)
    (hcalls : t.calls = (s.put j k).calls) (hnew : s.calls[i]? ≠ t.calls[i]?)
    (hk' : t.calls[i]? = some k') : i = j ∧ k = k' := by
  rcases cases_of_put hle hcalls hk' with ⟨hij, hk⟩ | ⟨hij, _⟩
  · exact ⟨hij, hk.symm⟩
  · exact absurd (call_of_put_of_ne hle hcalls hij).symm hnew

theorem ends_of_step (hstep : s.step a = some t) (hnew : s.calls[i]? ≠ t.calls[i]?)
    (hend : t.calls[i]? = some (.broughtUp r)) : Ends s a i r t := by
  cases move_of_step hstep with
  | lineUp hticket hbusy =>
      rcases changed_of_put (Nat.le_refl _) rfl hnew hend with ⟨rfl, rfl⟩
      cases hticket
  | linger hcall hticket hsame =>
      rcases changed_of_put (lt_of_call hcall).le rfl hnew hend with ⟨rfl, rfl⟩
      cases hsame
  | turnedAway hgain haway =>
      rcases changed_of_put hgain.le rfl hnew hend with ⟨rfl, rfl⟩
      exact .away hgain haway
  | proceeds h =>
      rename_i j u st rest
      have hle : j ≤ s.calls.length ∧ u.calls = s.calls := by
        cases h with
        | begun hgain hphase hfault =>
            exact ⟨hgain.le, rfl⟩
        | warmed hcall htell =>
            exact ⟨(lt_of_call hcall).le, rfl⟩
      cases rest with
      | nil =>
          rcases changed_of_put (k := .broughtUp (.ok ())) hle.1
            (calls_put_congr hle.2) hnew hend with ⟨rfl, hr⟩
          cases hr
          exact .complete h
      | cons d rest =>
          rcases changed_of_put (k := .bringUp (.building d rest st)) hle.1
            (calls_put_congr hle.2) hnew hend with ⟨_, hr⟩
          cases hr
  | fails h =>
      rename_i j u e st
      rcases h.core with ⟨⟨k, hcall, _⟩, hcalls, _⟩
      cases st with
      | nil =>
          rcases changed_of_put (k := .broughtUp (.error e)) (lt_of_call hcall).le
            (calls_put_congr hcalls) hnew hend with
            ⟨rfl, hr⟩
          cases hr
          exact .undone h
      | cons x st =>
          rcases changed_of_put (k := .bringUp (.rollingBack x.2 st e)) (lt_of_call hcall).le
            (calls_put_congr hcalls) hnew hend with ⟨_, hr⟩
          cases hr
  | built hcall horder | checked hcall | closed hcall hover | sendClose hcall hpool hdue
  | sendCheck hcall hpool hdue | closeOver hcall hrunning | checkOver hcall hrunning =>
      rcases changed_of_put (lt_of_call hcall).le rfl hnew hend with ⟨_, hr⟩
      cases hr
  | closing hgain hphase =>
      rcases changed_of_put hgain.le rfl hnew hend with ⟨_, hr⟩
      cases hr
  | checking =>
      rcases changed_of_put (Nat.le_refl _) rfl hnew hend with ⟨_, hr⟩
      cases hr
  | build hx hmade hempty | inside hx hi hallowed hact =>
      exact absurd rfl hnew

theorem Ends.available (h : s.Ends a i r t) : 0 < t.manager.lifecycle.available := by
  have hreleased : forall lock : Semaphore, 0 < lock.release.available := by
    intro lock
    rw [Semaphore.available_release]
    exact Nat.succ_pos _
  cases h with
  | away hgain haway | complete h | undone h =>
      exact hreleased _

/-!
## Success
-/

/-- The map has exactly one pool for each definition, which has set itself up and was not asked
to shut itself down. -/
structure Complete (c : ManagerConfig) (s : Fleet) : Prop where
  initialized : s.manager.initialized = true
  names : (s.manager.pools.map fun e => e.1).Perm (c.pools.map PoolDefinition.name)
  distinct : (c.pools.map PoolDefinition.name).Nodup
  pools : forall d, d ∈ c.pools -> exists (p : PoolRef) (x : Site),
    (d.name, p) ∈ s.manager.pools ∧ s.sites[p]? = some x ∧ x.card.definition = d ∧
      x.card.told = [.ok ()] ∧ x.card.requests.count .shutDown = 0

theorem Launched.site {p : PoolRef} {card : Card} (h : s.Launched p card) :
    exists x, s.sites[p]? = some x ∧ x.card = card := by
  rcases h with ⟨j, _, hmem⟩
  rcases mem_portfolio.mp hmem with ⟨x, hx, hcard, _⟩
  exact ⟨x, hx, hcard⟩

theorem Sound.complete (h : Sound c s) (hnobody : forall k, k ∈ s.calls -> k.isClosing = false)
    (hready : s.manager.phase = .ready) : Complete c s := by
  rcases (h.tidy hnobody).complete hready with ⟨hinitialized, hfault, hnames⟩
  have hdistinct := ((ManagerConfig.fault?_eq_none_iff c).mp hfault).2
  refine ⟨hinitialized, hnames, hdistinct, ?_⟩
  intro d hd
  rcases List.mem_map.mp (hnames.mem_iff.mpr (List.mem_map_of_mem hd)) with ⟨⟨name, p⟩, hp, hname⟩
  rcases h.registered name p hp with ⟨card, hcard, hsame, hcount⟩
  rcases h.launched p card hcard with ⟨hdefinition, htold, _⟩
  rcases hcard.site with ⟨x, hx, rfl⟩
  have hd' : x.card.definition = d :=
    List.inj_on_of_nodup_map hdistinct hdefinition hd (hsame.trans hname)
  subst hname
  exact ⟨p, x, hp, hx, hd', htold, hcount⟩

theorem Ends.complete_of_ok (h : s.Ends a i (.ok ()) t) (hsound : Sound c t) : Complete c t := by
  refine hsound.complete ?_ ?_
  · intro k hk
    rcases List.getElem?_of_mem hk with ⟨j, hj⟩
    exact not_isClosing_of_not_holds (hsound.order.nobody h.available hj)
  · cases h with
    | away hgain haway =>
        cases haway with
        | found hphase =>
            exact hphase
    | complete h =>
        rfl

/-!
## Failure
-/

structure Bare (m : PoolManager) : Prop where
  phase : m.phase = .uninitialized
  pools : m.pools = []
  initialized : m.initialized = false

theorem Bare.of_same {m m' : PoolManager} (h : Bare m) (hsame : SameRegister m m') : Bare m' where
  phase := hsame.phase.trans h.phase
  pools := hsame.pools.trans h.pools
  initialized := hsame.initialized.trans h.initialized

theorem Sound.bare {k : BringUp} (h : Sound c s) (hcall : s.calls[i]? = some (.bringUp k))
    (hholds : (ManagerCall.bringUp k).holds = true) : Bare s.manager := by
  have hwork := h.atWork (u := s) hcall hholds (.refl _) rfl (fun _ _ => rfl)
  exact ⟨hwork.phase, (hwork.emptyMap h).1, (hwork.emptyMap h).2⟩

/-- A call that fails leaves a manager that is closed, or one that is as it was. -/
theorem Ends.bare_of_error {e : ManagerError} (h : s.Ends a i (.error e) t) (hsound : Sound c s) :
    e = .alreadyClosed ∧ t.manager.phase = .closed ∨ Bare t.manager := by
  cases h with
  | away hgain haway =>
      cases haway with
      | late hphase =>
          exact Or.inl ⟨rfl, hphase⟩
      | faulty hphase hfault =>
          have htidy := (hsound.tidy_of_gains hgain).2
          have hempty := htidy.empty (by rw [hphase]; exact nofun)
          exact Or.inr ⟨hphase, hempty.1, hempty.2⟩
  | undone h =>
      rcases hsound.of_fails h with ⟨hwork, _⟩
      have hbare : Bare s.manager :=
        ⟨hwork.phase, (hwork.emptyMap hsound).1, (hwork.emptyMap hsound).2⟩
      exact Or.inr (hbare.of_same (hwork.register.trans ⟨rfl, rfl, rfl, rfl⟩))

structure Rejected (s : Fleet) : Prop where
  sites : s.sites = []
  phase : s.manager.phase ≠ .ready
  calls : forall i : Nat, s.calls[i]? ≠ some (.broughtUp (.ok ()))

theorem Sound.not_proceeds {e : ManagerError} {st : List (String × PoolRef)}
    {rest : List PoolDefinition} (h : Sound c s) (hfault : c.fault? = some e) :
    ¬s.Proceeds a i u st rest := by
  intro hp
  have hnone := (h.of_proceeds hp).1.fault
  rw [hfault] at hnone
  cases hnone

theorem Sound.not_fails {e e' : ManagerError} {st : List (String × PoolRef)} (h : Sound c s)
    (hfault : c.fault? = some e) : ¬s.Fails a i u e' st := by
  intro hf
  have hnone := (h.of_fails hf).1.fault
  rw [hfault] at hnone
  cases hnone

theorem Rejected.put (h : Rejected s) (hle : i ≤ s.calls.length)
    (hcalls : t.calls = (s.put i k).calls) (hk : k ≠ .broughtUp (.ok ()))
    (hsites : t.sites = []) (hphase : t.manager.phase ≠ .ready) : Rejected t where
  sites := hsites
  phase := hphase
  calls := by
    intro j hj
    rcases cases_of_put hle hcalls hj with ⟨_, hok⟩ | ⟨_, hok⟩
    · exact hk hok.symm
    · exact h.calls j hok

theorem sites_ask_nil {p : PoolRef} {request : PoolRequest} (h : s.sites = []) :
    (s.ask p request).sites = [] := by
  show s.sites.modify p _ = []
  rw [h]
  exact List.modify_nil _ _

theorem Rejected.move {e : ManagerError} (h : Rejected s) (hsound : Sound c s)
    (hfault : c.fault? = some e) (hmove : s.Move a t) : Rejected t := by
  cases hmove with
  | lineUp hticket hbusy =>
      refine h.put (Nat.le_refl _) rfl ?_ h.sites h.phase
      rintro rfl
      cases hticket
  | linger hcall hticket hsame =>
      refine h.put (lt_of_call hcall).le rfl ?_ h.sites h.phase
      rintro rfl
      cases hsame
  | turnedAway hgain haway =>
      refine h.put hgain.le rfl ?_ h.sites h.phase
      rintro rfl
      cases haway with
      | found hphase =>
          exact h.phase hphase
  | proceeds hproceeds =>
      exact absurd hproceeds (hsound.not_proceeds hfault)
  | built hcall horder =>
      have hnone := (hsound.of_built hcall horder).1.fault
      rw [hfault] at hnone
      cases hnone
  | fails hfails =>
      exact absurd hfails (hsound.not_fails hfault)
  | closing hgain hphase =>
      exact h.put hgain.le rfl nofun h.sites h.phase
  | closed hcall hover =>
      exact h.put (lt_of_call hcall).le rfl nofun h.sites nofun
  | checking =>
      exact h.put (Nat.le_refl _) rfl nofun h.sites h.phase
  | checked hcall | closeOver hcall hrunning | checkOver hcall hrunning =>
      exact h.put (lt_of_call hcall).le rfl nofun h.sites h.phase
  | sendClose hcall hpool hdue =>
      exact h.put (lt_of_call hcall).le rfl (k := .closeAll _ _) nofun (sites_ask_nil h.sites)
        h.phase
  | sendCheck hcall hpool hdue =>
      exact h.put (lt_of_call hcall).le rfl (k := .checkAll _ _) nofun (sites_ask_nil h.sites)
        h.phase
  | build hx hmade hempty | inside hx hi hallowed hact =>
      rw [h.sites] at hx
      cases hx

theorem Run.rejected {log : Log} {e : ManagerError} (h : Run (ofConfig c) log t)
    (hfault : c.fault? = some e) : Rejected t := by
  -- That a call cannot proceed follows from the books, so both go together.
  have hboth : Sound c t ∧ Rejected t := by
    refine h.invariant (I := fun t => Sound c t ∧ Rejected t) ?_
      ⟨sound_ofConfig c, rfl, nofun, nofun⟩
    rintro s t a ⟨hsound, hrejected⟩ hstep
    exact ⟨hsound.step hstep, hrejected.move hsound hfault (move_of_step hstep)⟩
  exact hboth.2

/-!
## Trying again
-/

def firstAttempt (c : ManagerConfig) : ManagerCall :=
  match c.pools with
  | [] => .broughtUp (.ok ())
  | d :: rest => .bringUp (.building d rest [])

theorem enter_firstAttempt {lock : Semaphore} (h : Bare s.manager) (hconfig : s.manager.config = c)
    (hfault : c.fault? = none) (hle : i ≤ s.calls.length) :
    (s.followBringUp i (BringUp.enter { s.manager with lifecycle := lock })).calls[i]?
      = some (firstAttempt c) := by
  have henter : BringUp.enter { s.manager with lifecycle := lock }
      = BringUp.goOn { s.manager with lifecycle := lock } [] c.pools := by
    unfold BringUp.enter
    simp only [h.phase, hconfig, hfault]
  rw [henter]
  unfold firstAttempt
  cases c.pools with
  | nil | cons d rest =>
      exact call_of_put hle rfl

theorem step_call_of_taken {lock : Semaphore} (htaken : s.manager.lifecycle.tryTake = .taken lock) :
    s.step (.call .bringUp) = some (s.followBringUp s.calls.length
      (BringUp.enter { s.manager with lifecycle := lock })) := by
  have hstart : BringUp.start s.manager = BringUp.enter { s.manager with lifecycle := lock } := by
    unfold BringUp.start
    rw [htaken]
  rw [← hstart]
  rfl

theorem step_reply_of_turn {ticket : Ticket}
    (hcall : s.calls[i]? = some (.bringUp (.queued ticket)))
    (hturn : s.manager.lifecycle.standing ticket = .promised) :
    s.step (.reply i .stirred) = some (s.followBringUp i
      (BringUp.enter { s.manager with lifecycle := s.manager.lifecycle.collect ticket })) := by
  simp only [step, hcall, allows, if_true, record, BringUp.step, hturn]

/-!
## Connections of a failed attempt
-/

theorem isDone_of_undone {e : ManagerError} {p : PoolRef} {card : Card} {es : List (PoolRef × Card)}
    {answers : List (Except PoolError Unit)} (h : Undone c i e es) (hmem : (p, card) ∈ es)
    (htold : card.told <+: answers) (hlength : answers.length ≤ card.requests.length) :
    Traffic.IsDone card.requests answers := by
  have hsame : card.told.length = card.requests.length -> answers = card.told :=
    fun heq => (htold.eq_of_length_le (by omega)).symm
  cases h with
  | late | faulty hfault =>
      cases hmem
  | rolledBack hfault hpools hfailed =>
      rcases List.mem_append.mp hmem with hgone | hlast
      · rcases List.mem_map.mp hgone with ⟨x, _, heq⟩
        cases heq
        rw [hsame rfl]
        exact Or.inr (Or.inr rfl)
      · cases List.mem_singleton.mp hlast
        cases hfailed with
        | refused =>
            exact Or.inl rfl
        | cold =>
            rw [hsame rfl]
            exact Or.inr (Or.inl ⟨_, rfl⟩)

/-- When everything is closed that was to be closed in the background, every connection that
was opened for a failed attempt was closed once, and nothing is left of its pools. -/
theorem Run.closed_once_of_failed {log : Log} {e : ManagerError} {x : Site} {y : Inside}
    (h : Run (ofConfig c) log t) (hfailed : t.calls[i]? = some (.broughtUp (.error e)))
    (hx : x ∈ t.sites) (hbuilder : x.card.builder = i) (hy : x.inside = some y)
    (hsettled : forall z, z ∈ y.traffic.parties -> z.isClosing = false) :
    y.traffic.parties = [] ∧ y.traffic.pool.idle = [] ∧
      forall d, d ∈ y.traffic.opened -> (y.log.countP fun e => e.1.closes d e.2) = 1 := by
  have hproper := h.allProper x hx
  have hundone : Undone c i e (t.portfolio i) := h.sound.fits i _ hfailed
  have hprivate : ¬t.Opened x.card.builder := by
    unfold Opened
    rw [hbuilder, hfailed]
    exact nofun
  have hsecluded := hproper.secluded hprivate y hy
  rcases List.getElem?_of_mem hx with ⟨p, hp⟩
  have hmem := mem_portfolio_of_site hp
  rw [hbuilder] at hmem
  exact Traffic.Run.closed_once_of_isDone (hproper.genuine y hy) hsecluded.own hsecluded.stage
    (isDone_of_undone hundone hmem hsecluded.told hsecluded.stage.length_answers_le) hsettled

/-!
## From the first failure to the end
-/

/-- The error of a call that has failed, or is going to fail when it has rolled back. -/
def failure? : ManagerCall -> Option ManagerError
  | .bringUp (.rollingBack _ _ e) | .broughtUp (.error e) => some e
  | .bringUp (.queued _) | .bringUp (.building _ _ _) | .bringUp (.warming _ _ _ _)
  | .broughtUp (.ok _) | .closeAll _ _ | .allClosed | .checkAll _ _ | .allChecked _ _ _ => none

/-- More answers than that a call does not need, once it has the lock.  Each definition takes
three of them at most: the pool is delivered, set up, and shut down again. -/
def toDo : BringUp -> Nat
  | .queued _ => 0
  | .building _ rest st => 3 * rest.length + st.length + 2
  | .warming _ _ rest st => 3 * rest.length + st.length + 1
  | .rollingBack _ rest _ => rest.length + 1

def Needs (n : Nat) : ManagerCall -> Prop
  | .bringUp k => (ManagerCall.bringUp k).holds = true ∧ toDo k ≤ n
  | .broughtUp _ => True
  | .closeAll _ _ | .allClosed | .checkAll _ _ | .allChecked _ _ _ => False

theorem call_rollBack (hle : i ≤ u.calls.length) (e : ManagerError)
    (st : List (String × PoolRef)) :
    exists k, (u.followBringUp i (BringUp.rollBack u.manager e st)).calls[i]? = some k ∧
      failure? k = some e ∧ Needs st.length k := by
  cases st with
  | nil =>
      exact ⟨.broughtUp (.error e), call_of_put hle rfl, rfl, trivial⟩
  | cons x st =>
      exact ⟨.bringUp (.rollingBack x.2 st e), call_of_put hle rfl, rfl, rfl, Nat.le_refl _⟩

theorem call_goOn (hle : i ≤ u.calls.length) (st : List (String × PoolRef))
    (rest : List PoolDefinition) :
    exists k, (u.followBringUp i (BringUp.goOn u.manager st rest)).calls[i]? = some k ∧
      Needs (3 * rest.length + st.length - 1) k := by
  cases rest with
  | nil =>
      exact ⟨.broughtUp (.ok ()), call_of_put hle rfl, trivial⟩
  | cons d rest =>
      refine ⟨.bringUp (.building d rest st), call_of_put hle rfl, rfl, ?_⟩
      show 3 * rest.length + st.length + 2 ≤ 3 * (rest.length + 1) + st.length - 1
      omega

theorem reply_of_call {k : BringUp} (hstep : s.step a = some t)
    (hcall : s.calls[i]? = some (.bringUp k)) (hsame : a.call? = some i) :
    exists r, a = .reply i r ∧ s.allows i k r = true ∧
      t = (s.record i k r).followBringUp i (k.step s.manager r) := by
  cases a with
  | reply j r =>
      cases hsame
      simp only [step, hcall] at hstep
      split at hstep
      · rename_i hallows
        exact ⟨r, rfl, hallows, (Option.some.inj hstep).symm⟩
      · cases hstep
  | send j n | closed j n answer | checked j n answer =>
      cases hsame
      simp only [step, hcall] at hstep
      cases hstep
  | call r | build p | inside p b =>
      cases hsame

/-- Whatever happens, a call that has met a failure reports it in the end. -/
theorem failure_stays {e : ManagerError} (hstep : s.step a = some t) (hcall : s.calls[i]? = some k)
    (hfailure : failure? k = some e) :
    exists k', t.calls[i]? = some k' ∧ failure? k' = some e := by
  by_cases hsame : a.call? = some i
  · cases k with
    | broughtUp r =>
        exact ⟨_, stays_over hstep hcall rfl, hfailure⟩
    | bringUp k =>
        cases k with
        | rollingBack p rest e' =>
            cases hfailure
            rcases reply_of_call hstep hcall hsame with ⟨r, _, hallows, rfl⟩
            cases r with
            | closed r =>
                rcases call_rollBack (u := s.tell p r) (lt_of_call hcall).le e rest with
                  ⟨k', hk', hfailure', _⟩
                exact ⟨k', hk', hfailure'⟩
            | stirred | built r | warmedUp r | allClosed | allChecked vs =>
                cases hallows
        | queued ticket | building d rest st | warming d p rest st =>
            cases hfailure
    | closeAll k errands | allClosed | checkAll k errands | allChecked k outcomes verdicts =>
        cases hfailure
  · exact ⟨k, stays_of_other hstep hcall hsame, hfailure⟩

theorem failure_of_refused {d : PoolDefinition} {rest : List PoolDefinition}
    {st : List (String × PoolRef)} {e : PoolError}
    (hcall : s.calls[i]? = some (.bringUp (.building d rest st)))
    (hstep : s.step (.reply i (.built (.error e))) = some t) :
    exists k, t.calls[i]? = some k ∧ failure? k = some (.poolInitialization d.name e) := by
  rcases reply_of_call hstep hcall rfl with ⟨r, hr, _, rfl⟩
  cases hr
  rcases call_rollBack (u := s.answer i (.error e)) (lt_of_call hcall).le
    (.poolInitialization d.name e) st with ⟨k, hk, hfailure, _⟩
  exact ⟨k, hk, hfailure⟩

theorem failure_of_cold {d : PoolDefinition} {p : PoolRef} {rest : List PoolDefinition}
    {st : List (String × PoolRef)} {e : PoolError}
    (hcall : s.calls[i]? = some (.bringUp (.warming d p rest st)))
    (hstep : s.step (.reply i (.warmedUp (.error e))) = some t) :
    exists k, t.calls[i]? = some k ∧ failure? k = some (.poolInitialization d.name e) := by
  rcases reply_of_call hstep hcall rfl with ⟨r, hr, _, rfl⟩
  cases hr
  rcases call_rollBack (u := s.tell p (.error e)) (lt_of_call hcall).le
    (.poolInitialization d.name e) st with ⟨k, hk, hfailure, _⟩
  exact ⟨k, hk, hfailure⟩

/-- Every answer brings a call that has the lock closer to its end. -/
theorem needs_less {k : BringUp} (hstep : s.step a = some t)
    (hcall : s.calls[i]? = some (.bringUp k)) (hholds : (ManagerCall.bringUp k).holds = true)
    (hsame : a.call? = some i) :
    exists k' n, t.calls[i]? = some k' ∧ Needs n k' ∧ n < toDo k := by
  rcases reply_of_call hstep hcall hsame with ⟨r, _, hallows, rfl⟩
  have hle := (lt_of_call hcall).le
  cases k with
  | queued ticket =>
      cases hholds
  | building d rest st =>
      cases r with
      | built r =>
          cases r with
          | ok p =>
              exact ⟨.bringUp (.warming d p rest st), _, call_of_put hle rfl,
                ⟨rfl, Nat.le_refl _⟩, Nat.lt_succ_self _⟩
          | error e =>
              rcases call_rollBack (u := s.answer i (.error e)) hle
                (.poolInitialization d.name e) st with ⟨k', hk', _, hneeds⟩
              refine ⟨k', _, hk', hneeds, ?_⟩
              show st.length < 3 * rest.length + st.length + 2
              omega
      | stirred | warmedUp r | closed r | allClosed | allChecked vs =>
          cases hallows
  | warming d p rest st =>
      cases r with
      | warmedUp r =>
          cases r with
          | ok _ =>
              rcases call_goOn (u := s.tell p (.ok ())) hle (st ++ [(d.name, p)]) rest with
                ⟨k', hk', hneeds⟩
              refine ⟨k', _, hk', hneeds, ?_⟩
              show 3 * rest.length + (st ++ [(d.name, p)]).length - 1
                < 3 * rest.length + st.length + 1
              rw [List.length_append, List.length_singleton]
              omega
          | error e =>
              rcases call_rollBack (u := s.tell p (.error e)) hle
                (.poolInitialization d.name e) st with ⟨k', hk', _, hneeds⟩
              refine ⟨k', _, hk', hneeds, ?_⟩
              show st.length < 3 * rest.length + st.length + 1
              omega
      | stirred | built r | closed r | allClosed | allChecked vs =>
          cases hallows
  | rollingBack p rest e =>
      cases r with
      | closed r =>
          rcases call_rollBack (u := s.tell p r) hle e rest with
            ⟨k', hk', _, hneeds⟩
          exact ⟨k', _, hk', hneeds, Nat.lt_succ_self _⟩
      | stirred | built r | warmedUp r | allClosed | allChecked vs =>
          cases hallows

end Fleet
end PoolHealth
