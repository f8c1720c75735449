import PoolHealth.Proofs.Manager.Books

/-!
# The books stay in order

Whatever happens in a fleet, its books stay in order.  There is a lemma for each kind of move;
those of calls that bring pools up have a half in which the call is told an answer and a half in
which it goes on.
-/

namespace PoolHealth
namespace Fleet

variable {c : ManagerConfig} {s t u : Fleet} {a : FleetAction} {i j : Nat} {k k' : ManagerCall}
  {p : PoolRef} {card : Card} {lock : Semaphore}

/-!
## Who waits for the lock, and who gains it
-/

theorem holds_of_isClosing (h : k.isClosing = true) : k.holds = true := by
  cases k with
  | closeAll k errands =>
      cases k with
      | closing pools =>
          rfl
      | queued ticket =>
          cases h
  | bringUp k | broughtUp r | allClosed | checkAll k errands | allChecked k outcomes verdicts =>
      cases h

theorem not_isClosing_of_not_holds (h : k.holds = false) : k.isClosing = false := by
  cases hclosing : k.isClosing with
  | false =>
      rfl
  | true =>
      rw [holds_of_isClosing hclosing] at h
      cases h

theorem isPrivate_of_ticket? {ticket : Ticket} (h : k.ticket? = some ticket) : IsPrivate k := by
  refine ⟨?_, not_isClosing_of_not_holds (holds_of_ticket? h)⟩
  rintro rfl
  cases h

theorem fits_of_ticket? {ticket : Ticket} (h : k.ticket? = some ticket)
    (hnone : s.portfolio i = []) : Fits c s i k := by
  cases k with
  | bringUp k =>
      cases k with
      | queued ticket =>
          refine ⟨?_, nofun⟩
          rw [hnone]
          exact .queued ticket
      | building d rest started | warming d p rest started | rollingBack p rest e =>
          cases h
  | closeAll k errands =>
      cases k with
      | queued ticket =>
          exact hnone
      | closing pools =>
          cases h
  | broughtUp r | allClosed | checkAll k errands | allChecked k outcomes verdicts =>
      cases h

theorem Fits.portfolio_of_ticket? {ticket : Ticket} (h : Fits c s i k)
    (hticket : k.ticket? = some ticket) : s.portfolio i = [] := by
  cases k with
  | bringUp k =>
      cases k with
      | queued ticket =>
          have hunder := h.1
          generalize s.portfolio i = es at hunder
          cases hunder
          rfl
      | building d rest started | warming d p rest started | rollingBack p rest e =>
          cases hticket
  | closeAll k errands =>
      cases k with
      | queued ticket =>
          exact h
      | closing pools =>
          cases hticket
  | broughtUp r | allClosed | checkAll k errands | allChecked k outcomes verdicts =>
      cases hticket

theorem Sound.of_gains (h : Sound c s) (hgain : s.Gains a i lock) :
    s.portfolio i = [] ∧ forall k, s.calls[i]? = some k -> IsPrivate k := by
  cases hgain with
  | atOnce htaken =>
      refine ⟨h.strangers _ (Nat.le_refl _), ?_⟩
      intro k hk
      rw [List.getElem?_eq_none (Nat.le_refl _)] at hk
      cases hk
  | inTurn hcall hticket hturn =>
      refine ⟨(h.fits i _ hcall).portfolio_of_ticket? hticket, ?_⟩
      intro k hk
      rw [hcall] at hk
      cases hk
      exact isPrivate_of_ticket? hticket

theorem Sound.tidy_of_gains (h : Sound c s) (hgain : s.Gains a i lock) :
    (forall (j : Nat) (k : ManagerCall), s.calls[j]? = some k -> k.holds = false) ∧
      Tidy c s.manager := by
  have hnobody := fun j k (hj : s.calls[j]? = some k) => h.order.nobody_of_gains hgain hj
  refine ⟨hnobody, h.tidy ?_⟩
  intro k hk
  rcases List.getElem?_of_mem hk with ⟨j, hj⟩
  exact not_isClosing_of_not_holds (hnobody j k hj)

/-!
## Being told an answer
-/

structure AtWork (c : ManagerConfig) (s u : Fleet) (i : Nat) : Prop where
  register : SameRegister s.manager u.manager
  calls : u.calls = s.calls
  others : forall j, j ≠ i -> u.portfolio j = s.portfolio j
  le : i ≤ s.calls.length
  isPrivate : forall k, s.calls[i]? = some k -> IsPrivate k
  phase : s.manager.phase = .uninitialized
  fault : c.fault? = none
  alone : forall (j : Nat) (k : ManagerCall), j ≠ i -> s.calls[j]? = some k -> k.holds = false

theorem Sound.atWork (h : Sound c s) {k : BringUp} (hcall : s.calls[i]? = some (.bringUp k))
    (hholds : (ManagerCall.bringUp k).holds = true)
    (hregister : SameRegister s.manager u.manager) (hcalls : u.calls = s.calls)
    (hothers : forall j, j ≠ i -> u.portfolio j = s.portfolio j) : AtWork c s u i where
  register := hregister
  calls := hcalls
  others := hothers
  le := (lt_of_call hcall).le
  isPrivate := by
    intro k' hk'
    rw [hcall] at hk'
    cases hk'
    exact ⟨nofun, rfl⟩
  phase := ((h.fits i _ hcall).2 hholds).1
  fault := ((h.fits i _ hcall).2 hholds).2
  alone := fun j k' hne hj => h.order.alone hcall hholds hj hne

theorem SameRegister.refl (m : PoolManager) : SameRegister m m := ⟨rfl, rfl, rfl, rfl⟩

theorem SameRegister.trans {m m' m'' : PoolManager} (h : SameRegister m m')
    (h' : SameRegister m' m'') : SameRegister m m'' where
  config := h'.config.trans h.config
  phase := h'.phase.trans h.phase
  pools := h'.pools.trans h.pools
  initialized := h'.initialized.trans h.initialized

theorem portfolio_middle {f : Card -> Card} {before after : List (PoolRef × Card)}
    (hrevise : forall j, t.portfolio j = revise p f (s.portfolio j))
    (h : s.portfolio i = before ++ (p, card) :: after) :
    t.portfolio i = before ++ (p, f card) :: after ∧
      forall j, j ≠ i -> t.portfolio j = s.portfolio j := by
  have hnodup := nodup_portfolio s i
  have hmem : (p, card) ∈ s.portfolio i := by
    rw [h]
    exact List.mem_append_right _ List.mem_cons_self
  rw [h] at hnodup
  constructor
  · rw [hrevise, h, revise_middle hnodup]
  · intro j hne
    rw [hrevise, revise_of_other hmem hne]

theorem portfolio_tell_middle {r : Except PoolError Unit} {before after : List (PoolRef × Card)}
    (h : s.portfolio i = before ++ (p, card) :: after) :
    (s.tell p r).portfolio i = before ++ (p, card.tell r) :: after ∧
      forall j, j ≠ i -> (s.tell p r).portfolio j = s.portfolio j :=
  portfolio_middle (fun _ => portfolio_tell r) h

theorem portfolio_ask_middle {r : PoolRequest} {before after : List (PoolRef × Card)}
    (h : s.portfolio i = before ++ (p, card) :: after) :
    (s.ask p r).portfolio i = before ++ (p, card.ask r) :: after ∧
      forall j, j ≠ i -> (s.ask p r).portfolio j = s.portfolio j :=
  portfolio_middle (fun _ => portfolio_ask r) h

theorem portfolio_answer_last {r : Except PoolError Unit} {done : List Placed}
    {d : PoolDefinition} (h : s.portfolio i = done.map (started i) ++ [(p, .ordered i d)]) :
    (s.answer i r).portfolio i
        = done.map (started i) ++ [(p, { Card.ordered i d with made := some r })] ∧
      forall j, j ≠ i -> (s.answer i r).portfolio j = s.portfolio j := by
  constructor
  · have hstarted : forall x : Placed, Card.answer i r (started i x).2 = (started i x).2 := by
      intro x
      unfold Card.answer
      rw [if_neg]
      exact fun hboth => nomatch hboth.2
    have hordered : Card.answer i r (Card.ordered i d)
        = { Card.ordered i d with made := some r } := by
      unfold Card.answer
      rw [if_pos]
      exact ⟨rfl, rfl⟩
    rw [portfolio_answer, h, List.map_append, List.map_map, List.map_singleton, hordered]
    congr 1
    apply List.map_congr_left
    intro x _
    show ((started i x).1, Card.answer i r (started i x).2) = _
    rw [hstarted]
  · intro j hne
    rw [portfolio_answer]
    conv => rhs; rw [← List.map_id (s.portfolio j)]
    apply List.map_congr_left
    rintro ⟨q, card⟩ hmem
    rcases mem_portfolio.mp hmem with ⟨x, _, rfl, hbuilder⟩
    have hnot : ¬(x.card.builder = i ∧ x.card.made = none) := by
      rw [hbuilder]
      exact fun hboth => hne hboth.1
    show (q, Card.answer i r x.card) = (q, x.card)
    unfold Card.answer
    rw [if_neg hnot]

theorem Sound.of_proceeds {st : List (String × PoolRef)} {rest : List PoolDefinition}
    (h : Sound c s) (hp : s.Proceeds a i u st rest) :
    AtWork c s u i ∧ exists done : List Placed, st = done.map label ∧
      c.pools = done.map Prod.fst ++ rest ∧ u.portfolio i = done.map (started i) := by
  cases hp with
  | begun hgain hphase hfault =>
      rcases h.of_gains hgain with ⟨hnone, hprivate⟩
      rw [h.config] at hfault ⊢
      refine ⟨⟨⟨rfl, rfl, rfl, rfl⟩, rfl, fun _ _ => rfl, hgain.le, hprivate, hphase, hfault, ?_⟩,
        [], rfl, rfl, hnone⟩
      intro j k _ hj
      exact h.order.nobody_of_gains hgain hj
  | warmed hcall htell =>
      rename_i d p started'
      have hunder := (h.fits i _ hcall).1
      generalize hportfolio : s.portfolio i = es at hunder
      cases hunder with
      | warming hpools =>
          rename_i done
          rcases portfolio_tell_middle (r := .ok ()) hportfolio with ⟨htold, hothers⟩
          refine ⟨h.atWork hcall rfl (.refl _) rfl hothers, done ++ [(d, p)], ?_, ?_, ?_⟩
          · rw [List.map_append]
            rfl
          · rw [hpools, List.map_append, List.append_assoc]
            rfl
          · rw [htold, List.map_append]
            rfl

/-- What a call has ordered, when it has failed: pools that were shut down again, pools that
are still there, and the one that has failed. -/
theorem Sound.of_fails {e : ManagerError} {st : List (String × PoolRef)} (h : Sound c s)
    (hf : s.Fails a i u e st) :
    AtWork c s u i ∧ exists (gone : List (Placed × Except PoolError Unit)) (todo : List Placed)
      (d : PoolDefinition) (rest : List PoolDefinition) (q : PoolRef) (source : PoolError)
      (card : Card), e = .poolInitialization d.name source ∧ st = todo.map label ∧
        c.pools = gone.map (fun x => x.1.1) ++ (todo.map Prod.fst ++ d :: rest) ∧
        Failed i d source card ∧
        u.portfolio i = gone.map (left i) ++ (todo.map (started i) ++ [(q, card)]) := by
  cases hf with
  | unbuilt hcall =>
      rename_i d rest source
      have hunder := (h.fits i _ hcall).1
      generalize hportfolio : s.portfolio i = es at hunder
      cases hunder with
      | building hpools =>
          rename_i done q
          rcases portfolio_answer_last (r := .error source) hportfolio with ⟨hanswered, hothers⟩
          exact ⟨h.atWork hcall rfl (.refl _) rfl hothers, [], done, d, rest, q, source, _, rfl,
            rfl, hpools, .refused, hanswered⟩
  | cold hcall htell =>
      rename_i d q rest source
      have hunder := (h.fits i _ hcall).1
      generalize hportfolio : s.portfolio i = es at hunder
      cases hunder with
      | warming hpools =>
          rename_i done
          rcases portfolio_tell_middle (r := .error source) hportfolio with ⟨htold, hothers⟩
          exact ⟨h.atWork hcall rfl (.refl _) rfl hothers, [], done, d, rest, q, source, _, rfl,
            rfl, hpools, .cold, htold⟩
  | undone hcall htell =>
      rename_i p r
      have hunder := (h.fits i _ hcall).1
      generalize hportfolio : s.portfolio i = es at hunder
      cases hunder with
      | rollingBack hpools hfailed =>
          rename_i gone d₀ d q todo rest source card
          rcases portfolio_tell_middle (r := r) hportfolio with ⟨htold, hothers⟩
          refine ⟨h.atWork hcall rfl (.refl _) rfl hothers, gone ++ [((d₀, p), r)], todo, d, rest,
            q, source, card, rfl, rfl, ?_, hfailed, ?_⟩
          · rw [hpools, List.map_append, List.append_assoc]
            rfl
          · rw [htold, List.map_append, List.append_assoc]
            rfl

/-!
## Going on
-/

/-- Only one call brings pools up, and meanwhile the map is empty and nobody closes anything. -/
theorem AtWork.nobodyCloses (hwork : AtWork c s u i) (hk : k ∈ s.calls) : k.isClosing = false := by
  rcases List.getElem?_of_mem hk with ⟨j, hj⟩
  by_cases hji : j = i
  · subst hji
    exact (hwork.isPrivate k hj).2
  · exact not_isClosing_of_not_holds (hwork.alone j k hji hj)

theorem AtWork.nobodyDue (hwork : AtWork c s u i) : ¬s.Due p := by
  rintro ⟨j, pools, errands, n, name, hj, _, _⟩
  cases hwork.nobodyCloses (List.mem_of_getElem? hj)

theorem AtWork.emptyMap (hwork : AtWork c s u i) (h : Sound c s) :
    s.manager.pools = [] ∧ s.manager.initialized = false := by
  apply (h.tidy fun _ => hwork.nobodyCloses).empty
  rw [hwork.phase]
  exact nofun

theorem AtWork.keep (hwork : AtWork c s u i) (h : Sound c s) (horder : t.InOrder)
    (hregister : SameRegister u.manager t.manager) (hcalls : t.calls = (u.put i k).calls)
    (hothers : forall j, j ≠ i -> t.portfolio j = u.portfolio j)
    (hafter : k = .broughtUp (.ok ()) -> t.portfolio i = [])
    (hfits : Fits c t i k) : Sound c t :=
  h.keep_private horder (hwork.register.trans hregister) hwork.le
    (hcalls.trans (calls_put_congr hwork.calls))
    (fun j hj => (hothers j hj).trans (hwork.others j hj)) hwork.isPrivate hafter hfits

structure Completed (c : ManagerConfig) (s t : Fleet) (i : Nat) (done : List Placed) : Prop where
  calls : t.calls = (s.put i (.broughtUp (.ok ()))).calls
  le : i ≤ s.calls.length
  isPrivate : forall k, s.calls[i]? = some k -> IsPrivate k
  mine : t.portfolio i = done.map (started i)
  others : forall j, j ≠ i -> t.portfolio j = s.portfolio j
  config : t.manager.config = c
  phase : t.manager.phase = .ready
  initialized : t.manager.initialized = true
  pools : t.manager.pools.Perm (done.map label)
  names : ((done.map label).map fun e => e.1) = c.pools.map PoolDefinition.name

theorem AtWork.completed {done : List Placed} (hwork : AtWork c s u i) (h : Sound c s)
    (hpools : c.pools = done.map Prod.fst) (hportfolio : u.portfolio i = done.map (started i)) :
    Completed c s (u.followBringUp i (BringUp.complete u.manager (done.map label))) i done := by
  have hnames : ((done.map label).map fun e => e.1) = c.pools.map PoolDefinition.name := by
    rw [hpools, List.map_map, List.map_map]
    rfl
  have hdistinct : ((done.map label ++ []).map fun e : String × PoolRef => e.1).Nodup := by
    rw [List.append_nil, hnames]
    exact ((ManagerConfig.fault?_eq_none_iff c).mp hwork.fault).2
  have hperm := Keyed.perm_foldl_insert (done.map label) hdistinct
  refine ⟨?_, hwork.le, hwork.isPrivate, hportfolio, hwork.others,
    hwork.register.config.trans h.config, rfl, rfl, ?_, hnames⟩
  · exact calls_put_congr hwork.calls
  · show ((done.map label).foldl _ u.manager.pools).Perm _
    rw [hwork.register.pools, (hwork.emptyMap h).1]
    rw [List.append_nil] at hperm
    exact hperm

namespace Completed

variable {done : List Placed}

theorem launched_of_mem (h : Completed c s t i done) {x : Placed} (hx : x ∈ done) :
    t.Launched x.2 (.warmed i x.1 (.ok ())) := by
  refine ⟨i, call_of_put h.le h.calls, ?_⟩
  rw [h.mine]
  exact List.mem_map_of_mem hx

theorem lasts (h : Completed c s t i done) : Lasts s t := by
  rintro p card ⟨j, hj, hmem⟩
  have hji : j ≠ i := by
    rintro rfl
    exact (h.isPrivate _ hj).1 rfl
  refine ⟨card, j, ?_, ?_⟩
  · rw [call_of_put_of_ne h.le h.calls hji]
    exact hj
  · rw [h.others j hji]
    exact hmem

theorem launched_cases (h : Completed c s t i done) (hcard : t.Launched p card) :
    s.Launched p card ∨ exists x : Placed, x ∈ done ∧ started i x = (p, card) := by
  rcases hcard with ⟨j, hj, hmem⟩
  rcases cases_of_put h.le h.calls hj with ⟨rfl, _⟩ | ⟨hji, hj⟩
  · rw [h.mine] at hmem
    exact Or.inr (List.mem_map.mp hmem)
  · rw [h.others j hji] at hmem
    exact Or.inl ⟨j, hj, hmem⟩

end Completed

theorem Sound.of_complete {done : List Placed} (h : Sound c s) (hwork : AtWork c s u i)
    (hpools : c.pools = done.map Prod.fst) (hdone : Completed c s t i done)
    (horder : t.InOrder) : Sound c t where
  order := horder
  config := hdone.config
  fits := by
    intro j k' hj
    refine h.fits_put hdone.le hdone.calls (fun j hj => Or.inl (hdone.others j hj)) hdone.lasts
      ?_ ?_ trivial hj
    · intro j k' hji hj hholds
      rw [hwork.alone j k' hji hj] at hholds
      cases hholds
    · rw [hwork.phase]
      exact nofun
  strangers :=
    fun _ => h.strangers_put hdone.le hdone.calls (fun j hj => Or.inl (hdone.others j hj))
  tidy := by
    intro _
    refine ⟨fun hnot => absurd hdone.phase hnot, fun _ => ⟨hdone.initialized, hwork.fault, ?_⟩⟩
    rw [← hdone.names]
    exact hdone.pools.map _
  names := by
    rw [(hdone.pools.map _).nodup_iff, hdone.names]
    exact ((ManagerConfig.fault?_eq_none_iff c).mp hwork.fault).2
  registered := by
    intro name p hmem
    rcases List.mem_map.mp (hdone.pools.mem_iff.mp hmem) with ⟨x, hx, hlabel⟩
    cases hlabel
    exact ⟨_, hdone.launched_of_mem hx, rfl, rfl⟩
  launched := by
    intro p card hcard
    rcases hdone.launched_cases hcard with hbefore | ⟨x, hx, heq⟩
    · rcases h.launched p card hbefore with ⟨hdefinition, htold, hcount⟩
      refine ⟨hdefinition, htold, ?_⟩
      rcases hcount with hone | ⟨-, ⟨name, hpool⟩ | hdue⟩
      · exact Or.inl hone
      · rw [(hwork.emptyMap h).1] at hpool
        cases hpool
      · exact absurd hdue hwork.nobodyDue
    · cases heq
      refine ⟨?_, rfl, Or.inr ⟨rfl, Or.inl ⟨x.1.name, ?_⟩⟩⟩
      · rw [hpools]
        exact List.mem_map_of_mem hx
      · exact hdone.pools.mem_iff.mpr (List.mem_map_of_mem hx)

theorem Sound.goOn {st : List (String × PoolRef)} {rest : List PoolDefinition} (h : Sound c s)
    (hp : s.Proceeds a i u st rest)
    (horder : (u.followBringUp i (BringUp.goOn u.manager st rest)).InOrder) :
    Sound c (u.followBringUp i (BringUp.goOn u.manager st rest)) := by
  rcases h.of_proceeds hp with ⟨hwork, done, rfl, hpools, hportfolio⟩
  cases rest with
  | nil =>
      rw [List.append_nil] at hpools
      exact h.of_complete hwork hpools (hwork.completed h hpools hportfolio) horder
  | cons d rest =>
      refine hwork.keep h horder ⟨rfl, rfl, rfl, rfl⟩ (k := .bringUp (.building d rest _)) rfl ?_
        nofun ⟨?_, fun _ => ⟨hwork.register.phase.trans hwork.phase, hwork.fault⟩⟩
      · intro j hj
        refine (portfolio_order d).trans ?_
        rw [if_neg (Ne.symm hj), List.append_nil]
        rfl
      · have hordered : (u.followBringUp i
            (BringUp.goOn u.manager (done.map label) (d :: rest))).portfolio i
              = done.map (started i) ++ [(u.sites.length, .ordered i d)] := by
          refine (portfolio_order d).trans ?_
          rw [if_pos rfl]
          exact congrArg (fun es => es ++ _) hportfolio
        rw [hordered]
        exact .building hpools

theorem Sound.rollBack {e : ManagerError} {st : List (String × PoolRef)} (h : Sound c s)
    (hf : s.Fails a i u e st)
    (horder : (u.followBringUp i (BringUp.rollBack u.manager e st)).InOrder) :
    Sound c (u.followBringUp i (BringUp.rollBack u.manager e st)) := by
  rcases h.of_fails hf with
    ⟨hwork, gone, todo, d, rest, q, source, card, rfl, rfl, hpools, hfailed, hportfolio⟩
  cases todo with
  | nil =>
      refine hwork.keep h horder ⟨rfl, rfl, rfl, rfl⟩ (k := .broughtUp (.error _)) rfl
        (fun _ _ => rfl) nofun ?_
      show Undone c i _ (u.portfolio i)
      rw [hportfolio]
      exact .rolledBack hwork.fault hpools hfailed
  | cons x todo =>
      rcases x with ⟨d₀, p⟩
      rcases portfolio_ask_middle (s := (u.adopt u.manager).put i
        (.bringUp (.rollingBack p (todo.map label) (.poolInitialization d.name source))))
        (r := .shutDown) hportfolio with ⟨hasked, hothers⟩
      refine hwork.keep h horder ⟨rfl, rfl, rfl, rfl⟩ (k := .bringUp (.rollingBack p _ _)) rfl
        hothers nofun ⟨?_, fun _ => ⟨hwork.register.phase.trans hwork.phase, hwork.fault⟩⟩
      refine hasked ▸ ?_
      exact .rollingBack hpools hfailed

theorem Sound.of_built {d : PoolDefinition} {rest : List PoolDefinition}
    {st : List (String × PoolRef)} (h : Sound c s)
    (hcall : s.calls[i]? = some (.bringUp (.building d rest st))) (hhas : s.hasOrdered i p = true) :
    AtWork c s (s.answer i (.ok ())) i ∧ exists done : List Placed, st = done.map label ∧
      c.pools = done.map Prod.fst ++ d :: rest ∧
        (s.answer i (.ok ())).portfolio i = done.map (started i) ++ [(p, .delivered i d)] := by
  have hunder := (h.fits i _ hcall).1
  generalize hportfolio : s.portfolio i = es at hunder
  cases hunder with
  | building hpools =>
      rename_i done q
      -- Of the sites that the call has ordered, only the last one has not been answered for.
      have hlast : p = q := by
        rcases (Option.any_eq_true _ _).mp hhas with ⟨x, hx, hboth⟩
        rcases of_decide_eq_true hboth with ⟨hbuilder, hmade⟩
        have hmem := mem_portfolio_of_site hx
        rw [hbuilder, hportfolio] at hmem
        rcases List.mem_append.mp hmem with hstarted | hordered
        · rcases List.mem_map.mp hstarted with ⟨y, _, heq⟩
          rw [← (Prod.mk.inj heq).2] at hmade
          cases hmade
        · exact (Prod.mk.inj (List.mem_singleton.mp hordered)).1
      subst hlast
      rcases portfolio_answer_last (r := .ok ()) hportfolio with ⟨hanswered, hothers⟩
      exact ⟨h.atWork hcall rfl (.refl _) rfl hothers, done, rfl, hpools, hanswered⟩

theorem Sound.built {d : PoolDefinition} {rest : List PoolDefinition}
    {st : List (String × PoolRef)} (h : Sound c s)
    (hcall : s.calls[i]? = some (.bringUp (.building d rest st))) (hhas : s.hasOrdered i p = true)
    (horder : ((s.answer i (.ok ())).followBringUp i
      (s.manager, .waiting (.warming d p rest st))).InOrder) :
    Sound c ((s.answer i (.ok ())).followBringUp i
      (s.manager, .waiting (.warming d p rest st))) := by
  rcases h.of_built hcall hhas with ⟨hwork, done, rfl, hpools, hanswered⟩
  rcases portfolio_ask_middle (s := ((s.answer i (.ok ())).adopt s.manager).put i
    (.bringUp (.warming d p rest (done.map label)))) (r := .warmUp) hanswered with
    ⟨hasked, hothers⟩
  refine hwork.keep h horder ⟨rfl, rfl, rfl, rfl⟩ (k := .bringUp (.warming d p rest _)) rfl
    hothers nofun ⟨?_, fun _ => ⟨hwork.phase, hwork.fault⟩⟩
  refine hasked ▸ ?_
  exact .warming hpools

end Fleet
end PoolHealth
