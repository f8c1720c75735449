import PoolHealth.Proofs.Manager.Errands

/-!
# Inside the sites

What happens inside a connection pool is a run of that pool alone.  As long as the call that
brings the pool up is not over, nothing but requests of that call reaches the pool, and they
come in order: it is asked to shut itself down only when it has set itself up.
-/

namespace PoolHealth

namespace Traffic

variable {s : Traffic} {a : Action} {asked : List PoolRequest}
  {answers : List (Except PoolError Unit)}

/-- A pool has not answered more often than it was asked. -/
theorem Stage.length_answers_le (h : Stage s asked answers) : answers.length ≤ asked.length := by
  cases h with
  | fresh h hstill | warming hk h hstill | failed h hstill | ready h hmaintained hrounds
  | ending h hrounds | draining h hstill | closed h hstill =>
      simp

theorem staysSecluded_of_isOwn (h : a.isOwn = true) : staysSecluded a = true := by
  cases a with
  | elapse e | reply i r | retire i =>
      rfl
  | call r | drop i | giveBack i background | markBroken i =>
      cases h

theorem Run.snoc {c : PoolConfig} {log : Log} {t : Traffic} (h : Run (ofConfig c) log s)
    (hstep : s.step a = some t) : Run (ofConfig c) (log ++ [(s, a)]) t :=
  h.append (.act hstep (.done t))

end Traffic

namespace Inside

variable {x y : Inside} {a : Action}

theorem act_eq_some_iff :
    x.act a = some y <-> exists t, x.traffic.step a = some t ∧
      y = { traffic := t, log := x.log ++ [(x.traffic, a)] } := by
  unfold act
  rw [Option.map_eq_some_iff]
  exact exists_congr fun t => and_congr_right fun _ => eq_comm

theorem answers_act (h : x.act a = some y) :
    y.answers = x.answers ++ (x.traffic.switched? a).toList := by
  rcases act_eq_some_iff.mp h with ⟨t, _, rfl⟩
  unfold answers
  rw [List.filterMap_append]
  rfl

theorem act_ask (x : Inside) (r : PoolRequest) : x.act (.call r) = some (x.ask r) := rfl

def Genuine (x : Inside) (c : PoolConfig) : Prop :=
  Traffic.Run (.ofConfig c) x.log x.traffic

theorem genuine_ofConfig (c : PoolConfig) : (ofConfig c).Genuine c := .done _

theorem Genuine.act {c : PoolConfig} (h : x.Genuine c) (hact : x.act a = some y) :
    y.Genuine c := by
  rcases act_eq_some_iff.mp hact with ⟨t, hstep, rfl⟩
  exact Traffic.Run.snoc h hstep

/-- Nobody but the call that brings the pool up has asked it for anything, and it has given no
other answers than the call was told, or is to be told. -/
structure Secluded (x : Inside) (asked : List PoolRequest)
    (told : List (Except PoolError Unit)) : Prop where
  own : forall e, e ∈ x.log -> Traffic.staysSecluded e.2 = true
  stage : Traffic.Stage x.traffic asked x.answers
  told : told <+: x.answers

namespace Secluded

variable {asked : List PoolRequest} {told : List (Except PoolError Unit)} {r : PoolRequest}

theorem ofConfig (c : PoolConfig) : (ofConfig c).Secluded [] [] where
  own := fun _ h => nomatch h
  stage := Traffic.stage_ofConfig c
  told := List.nil_prefix

theorem own_act (h : x.Secluded asked told) (hact : x.act a = some y)
    (ha : Traffic.staysSecluded a = true) :
    forall e, e ∈ y.log -> Traffic.staysSecluded e.2 = true := by
  rcases act_eq_some_iff.mp hact with ⟨t, _, rfl⟩
  intro e he
  rcases List.mem_append.mp he with hbefore | hlast
  · exact h.own e hbefore
  · rw [List.mem_singleton.mp hlast]
    exact ha

theorem told_act (h : x.Secluded asked told) (hact : x.act a = some y) : told <+: y.answers := by
  rw [answers_act hact]
  exact h.told.trans (List.prefix_append _ _)

theorem act (h : x.Secluded asked told) (hact : x.act a = some y) (hown : a.isOwn = true) :
    y.Secluded asked told where
  own := h.own_act hact (Traffic.staysSecluded_of_isOwn hown)
  stage := by
    rcases act_eq_some_iff.mp hact with ⟨t, hstep, hy⟩
    have hanswers := answers_act hact
    rw [hanswers]
    subst hy
    exact h.stage.step hown hstep
  told := h.told_act hact

theorem ask_warmUp (h : x.Secluded [] []) : (x.ask .warmUp).Secluded [.warmUp] [] where
  own := h.own_act (x.act_ask .warmUp) rfl
  stage := by
    have hstage := h.stage
    have hnone : x.answers = [] :=
      List.length_eq_zero_iff.mp (Nat.le_zero.mp hstage.length_answers_le)
    rcases act_eq_some_iff.mp (x.act_ask .warmUp) with ⟨t, hstep, hy⟩
    rw [answers_act (x.act_ask .warmUp), hnone, hy]
    rw [hnone] at hstage
    exact hstage.call_warmUp hstep
  told := List.nil_prefix

theorem ask_shutDown (h : x.Secluded [.warmUp] [.ok ()]) :
    (x.ask .shutDown).Secluded [.warmUp, .shutDown] [.ok ()] where
  own := h.own_act (x.act_ask .shutDown) rfl
  stage := by
    have hstage := h.stage
    have hanswers : x.answers = [.ok ()] :=
      (h.told.eq_of_length_le hstage.length_answers_le).symm
    rcases act_eq_some_iff.mp (x.act_ask .shutDown) with ⟨t, hstep, hy⟩
    rw [answers_act (x.act_ask .shutDown), hanswers, hy]
    rw [hanswers] at hstage
    exact hstage.call_shutDown hstep
  told := h.told_act (x.act_ask .shutDown)

end Secluded
end Inside

/-!
## One site
-/

namespace Site

variable {x : Site} {i : Inside} {isPublic : Prop} {r : PoolRequest}

structure Proper (isPublic : Prop) (x : Site) : Prop where
  /-- Nobody asks anything of a pool before the factory has delivered it. -/
  fresh : x.card.made = none -> x.card.requests = [] ∧ x.card.told = []
  genuine : forall i, x.inside = some i -> i.Genuine x.card.definition.config
  secluded : ¬isPublic -> forall i, x.inside = some i -> i.Secluded x.card.requests x.card.told

namespace Proper

theorem ordered (isPublic : Prop) (card : Card) (hrequests : card.requests = [])
    (htold : card.told = []) : Proper isPublic { card := card } where
  fresh := fun _ => ⟨hrequests, htold⟩
  genuine := nofun
  secluded := nofun

theorem publish {isPublic' : Prop} (h : Proper isPublic x) (himp : isPublic -> isPublic') :
    Proper isPublic' x where
  fresh := h.fresh
  genuine := h.genuine
  secluded := fun hnot => h.secluded (mt himp hnot)

theorem answer (h : Proper isPublic x) (n : Nat) (result : Except PoolError Unit) :
    Proper isPublic (x.answer n result) := by
  unfold Site.answer
  split
  · exact ⟨nofun, h.genuine, h.secluded⟩
  · exact h

theorem tell {result : Except PoolError Unit} (h : Proper isPublic x) (hmade : x.card.made ≠ none)
    (htell : x.mayTell result = true) : Proper isPublic (x.tell result) where
  fresh := fun hnone => absurd hnone hmade
  genuine := h.genuine
  secluded := by
    intro hnot i hi
    have hbefore := h.secluded hnot i hi
    have hanswers : i.answers = x.card.told ++ [result] := by
      unfold mayTell at htell
      have hi' : x.inside = some i := hi
      rw [hi'] at htell
      exact of_decide_eq_true htell
    refine ⟨hbefore.own, hbefore.stage, ?_⟩
    rw [hanswers]
    exact List.prefix_refl _

/-- What a call may ask of a pool that it brings up, and when. -/
inductive Asks : PoolRequest -> Card -> Prop where
  | warmUp (n : Nat) (d : PoolDefinition) : Asks .warmUp (.delivered n d)
  | shutDown (n : Nat) (d : PoolDefinition) : Asks .shutDown (.warmed n d (.ok ()))

theorem ask (h : Proper isPublic x) (hmade : x.card.made ≠ none)
    (hasks : ¬isPublic -> Asks r x.card) : Proper isPublic (x.ask r) where
  fresh := fun hnone => absurd hnone hmade
  genuine := by
    intro i hi
    rcases Option.map_eq_some_iff.mp hi with ⟨i₀, hi₀, rfl⟩
    exact (h.genuine i₀ hi₀).act (i₀.act_ask r)
  secluded := by
    intro hnot i hi
    rcases Option.map_eq_some_iff.mp hi with ⟨i₀, hi₀, rfl⟩
    have hbefore := h.secluded hnot i₀ hi₀
    have hcard := hasks hnot
    show (i₀.ask r).Secluded (x.card.requests ++ [r]) x.card.told
    generalize x.card = card at hcard hbefore
    cases hcard with
    | warmUp n d =>
        exact hbefore.ask_warmUp
    | shutDown n d =>
        exact hbefore.ask_shutDown

theorem build (h : Proper isPublic x) (hmade : x.card.made = none) :
    Proper isPublic { x with inside := some (.ofConfig x.card.definition.config) } where
  fresh := h.fresh
  genuine := by
    rintro i ⟨⟩
    exact Inside.genuine_ofConfig _
  secluded := by
    rintro _ i ⟨⟩
    rcases h.fresh hmade with ⟨hrequests, htold⟩
    show (Inside.ofConfig x.card.definition.config).Secluded x.card.requests x.card.told
    rw [hrequests, htold]
    exact .ofConfig _

theorem inside {y : Inside} {a : Action} (h : Proper isPublic x) (hi : x.inside = some i)
    (hown : ¬isPublic -> a.isOwn = true) (hact : i.act a = some y) :
    Proper isPublic { x with inside := some y } where
  fresh := h.fresh
  genuine := by
    rintro _ ⟨⟩
    exact (h.genuine i hi).act hact
  secluded := by
    rintro hnot _ ⟨⟩
    exact (h.secluded hnot i hi).act hact (hown hnot)

end Proper
end Site

namespace Fleet

variable {c : ManagerConfig} {s t u : Fleet} {a : FleetAction} {i : Nat} {p : PoolRef} {x : Site}
  {card : Card} {r : PoolRequest} {isPublic : Nat -> Prop} {sites : List Site}

/-!
## All sites
-/

/-- All sites are as they should be, where the pools of some calls are public. -/
def AllProper (isPublic : Nat -> Prop) (sites : List Site) : Prop :=
  forall x, x ∈ sites -> x.Proper (isPublic x.card.builder)

namespace AllProper

theorem order (h : AllProper isPublic s.sites) (i : Nat) (d : PoolDefinition) :
    AllProper isPublic (s.order i d).sites := by
  intro x hx
  rcases List.mem_append.mp hx with hbefore | hlast
  · exact h x hbefore
  · rw [List.mem_singleton.mp hlast]
    exact .ordered _ _ rfl rfl

theorem answer (h : AllProper isPublic s.sites) (i : Nat) (result : Except PoolError Unit) :
    AllProper isPublic (s.answer i result).sites := by
  intro x hx
  rcases List.mem_map.mp hx with ⟨y, hy, rfl⟩
  have hbuilder : (y.answer i result).card.builder = y.card.builder := by
    unfold Site.answer
    split
    · rfl
    · rfl
  rw [hbuilder]
  exact (h y hy).answer i result

theorem modify {f : Site -> Site} (h : AllProper isPublic s.sites)
    (hf : forall x, s.sites[p]? = some x -> (f x).Proper (isPublic (f x).card.builder)) :
    AllProper isPublic (s.sites.modify p f) := by
  intro x hx
  rcases List.getElem?_of_mem hx with ⟨q, hq⟩
  rw [List.getElem?_modify] at hq
  rcases Option.map_eq_some_iff.mp hq with ⟨y, hy, rfl⟩
  by_cases hpq : p = q
  · subst hpq
    rw [if_pos rfl]
    exact hf y hy
  · rw [if_neg hpq]
    exact h y (List.mem_of_getElem? hy)

theorem tell {result : Except PoolError Unit} (h : AllProper isPublic s.sites)
    (hmade : forall x, s.sites[p]? = some x -> x.card.made ≠ none)
    (htell : s.mayTell p result = true) : AllProper isPublic (s.tell p result).sites := by
  refine h.modify fun x hx => (h x (List.mem_of_getElem? hx)).tell (hmade x hx) ?_
  unfold mayTell at htell
  rw [hx] at htell
  exact htell

theorem ask (h : AllProper isPublic s.sites)
    (hmade : forall x, s.sites[p]? = some x -> x.card.made ≠ none)
    (hasks : forall x, s.sites[p]? = some x -> ¬isPublic x.card.builder ->
      Site.Proper.Asks r x.card) : AllProper isPublic (s.ask p r).sites :=
  h.modify fun x hx => (h x (List.mem_of_getElem? hx)).ask (hmade x hx) (hasks x hx)

theorem ask_of_mem (h : AllProper isPublic s.sites) (hmem : (p, card) ∈ s.portfolio i)
    (hasks : Site.Proper.Asks r card) : AllProper isPublic (s.ask p r).sites := by
  have hcard : forall x, s.sites[p]? = some x -> x.card = card := by
    intro x hx
    rcases mem_portfolio.mp hmem with ⟨y, hy, hyc, _⟩
    rw [hx] at hy
    cases hy
    exact hyc
  have hmade : card.made ≠ none := by
    cases hasks with
    | warmUp n d | shutDown n d =>
        exact nofun
  refine h.ask (fun x hx => ?_) (fun x hx _ => ?_)
  · rw [hcard x hx]
    exact hmade
  · rw [hcard x hx]
    exact hasks

theorem ask_of_launched {r : PoolRequest} (h : AllProper isPublic s.sites) (hsound : Sound c s)
    (hpublic : forall j, s.calls[j]? = some (.broughtUp (.ok ())) -> isPublic j)
    (hcard : s.Launched p card) : AllProper isPublic (s.ask p r).sites := by
  have hsite : forall x, s.sites[p]? = some x -> x.card = card ∧ isPublic x.card.builder := by
    intro x hx
    rcases hcard with ⟨j, hj, hmem⟩
    rcases mem_portfolio.mp hmem with ⟨y, hy, hyc, hbuilder⟩
    rw [hx] at hy
    cases hy
    refine ⟨hyc, hpublic _ ?_⟩
    rw [hyc, hbuilder]
    exact hj
  refine h.ask (fun x hx hmade => ?_) (fun x hx hnot => absurd (hsite x hx).2 hnot)
  have htold := ((h x (List.mem_of_getElem? hx)).fresh hmade).2
  rw [(hsite x hx).1, (hsound.launched p card hcard).2.1] at htold
  cases htold

theorem set {y : Site} (h : AllProper isPublic sites) (hy : y.Proper (isPublic y.card.builder)) :
    AllProper isPublic (sites.set p y) := by
  intro x hx
  rcases List.mem_or_eq_of_mem_set hx with hbefore | rfl
  · exact h x hbefore
  · exact hy

end AllProper

/-!
## Every action
-/

theorem Sound.card_of_warming {d : PoolDefinition} {rest : List PoolDefinition}
    {st : List (String × PoolRef)} (h : Sound c s)
    (hcall : s.calls[i]? = some (.bringUp (.warming d p rest st))) :
    (p, .warming i d) ∈ s.portfolio i := by
  have hunder := (h.fits i _ hcall).1
  generalize s.portfolio i = es at hunder
  cases hunder with
  | warming hpools =>
      exact List.mem_append_right _ List.mem_cons_self

theorem Sound.card_of_rollingBack {e : ManagerError} {rest : List (String × PoolRef)}
    (h : Sound c s) (hcall : s.calls[i]? = some (.bringUp (.rollingBack p rest e))) :
    exists d, (p, .leaving i d) ∈ s.portfolio i := by
  have hunder := (h.fits i _ hcall).1
  generalize s.portfolio i = es at hunder
  cases hunder with
  | rollingBack hpools hfailed =>
      exact ⟨_, List.mem_append_right _ List.mem_cons_self⟩

theorem AllProper.tell_of_mem {result : Except PoolError Unit} (h : AllProper isPublic s.sites)
    (hmem : (p, card) ∈ s.portfolio i) (hmade : card.made ≠ none)
    (htell : s.mayTell p result = true) : AllProper isPublic (s.tell p result).sites := by
  refine h.tell (fun x hx => ?_) htell
  rcases mem_portfolio.mp hmem with ⟨y, hy, hyc, _⟩
  rw [hx] at hy
  cases hy
  rw [hyc]
  exact hmade

theorem AllProper.proceeds {st : List (String × PoolRef)} {rest : List PoolDefinition}
    (h : AllProper isPublic s.sites) (hsound : Sound c s) (hp : s.Proceeds a i u st rest) :
    AllProper isPublic u.sites := by
  cases hp with
  | begun hgain hphase hfault =>
      exact h
  | warmed hcall htell =>
      exact h.tell_of_mem (hsound.card_of_warming hcall) nofun htell

theorem AllProper.fails {st : List (String × PoolRef)} {e : ManagerError}
    (h : AllProper isPublic s.sites) (hsound : Sound c s) (hf : s.Fails a i u e st) :
    AllProper isPublic u.sites := by
  cases hf with
  | unbuilt hcall =>
      exact h.answer _ _
  | cold hcall htell =>
      exact h.tell_of_mem (hsound.card_of_warming hcall) nofun htell
  | undone hcall htell =>
      rcases hsound.card_of_rollingBack hcall with ⟨d, hmem⟩
      exact h.tell_of_mem hmem nofun htell

def Opened (s : Fleet) (i : Nat) : Prop := s.calls[i]? = some (.broughtUp (.ok ()))

theorem AllProper.move (h : AllProper s.Opened s.sites) (hsound : Sound c s) (hmove : s.Move a t) :
    AllProper s.Opened t.sites := by
  cases hmove with
  | lineUp hticket hbusy | linger hcall hticket hsame | turnedAway hgain haway
  | closing hgain hphase | closed hcall hover | checking | checked hcall
  | closeOver hcall hrunning | checkOver hcall hrunning =>
      exact h
  | proceeds hproceeds =>
      rename_i i u st rest
      have hu := h.proceeds hsound hproceeds
      cases rest with
      | nil =>
          exact hu
      | cons d rest =>
          exact hu.order i d
  | built hcall hordered =>
      rename_i i d p rest st
      rcases hsound.of_built hcall hordered with ⟨_, done, _, _, hanswered⟩
      have hmem : (p, .delivered i d) ∈ (s.answer i (.ok ())).portfolio i := by
        rw [hanswered]
        exact List.mem_append_right _ List.mem_cons_self
      exact (h.answer _ _).ask_of_mem hmem (.warmUp _ _)
  | fails hfails =>
      rename_i i u e st
      have hu := h.fails hsound hfails
      rcases hsound.of_fails hfails with
        ⟨_, gone, todo, d, rest, q, source, card, _, rfl, _, _, hportfolio⟩
      cases todo with
      | nil =>
          exact hu
      | cons x todo =>
          have hmem : (x.2, .warmed i x.1 (.ok ())) ∈ u.portfolio i := by
            rw [hportfolio]
            exact List.mem_append_right _ List.mem_cons_self
          exact hu.ask_of_mem hmem (.shutDown _ _)
  | sendClose hcall hpool hdue =>
      rcases (hsound.fits _ _ hcall).2.asked _ _ _ .due hpool hdue with ⟨card, hcard, _⟩
      exact h.ask_of_launched hsound (fun _ => id) hcard
  | sendCheck hcall hpool hdue =>
      rcases (hsound.fits _ _ hcall).2.launched _ _ (List.mem_of_getElem? hpool) with ⟨card, hcard⟩
      exact h.ask_of_launched hsound (fun _ => id) hcard
  | build hx hmade hempty =>
      exact h.set ((h _ (List.mem_of_getElem? hx)).build hmade)
  | inside hx hi hallowed hact =>
      refine h.set ((h _ (List.mem_of_getElem? hx)).inside hi (fun hnot => ?_) hact)
      rcases (Bool.or_eq_true _ _).mp hallowed with hpublic | hown
      · exact absurd (of_decide_eq_true hpublic) hnot
      · exact hown

theorem opened_mono (hstep : s.step a = some t) (h : s.Opened i) : t.Opened i :=
  stays_over hstep h rfl

theorem Run.allProper {log : Log} (h : Run (ofConfig c) log t) : AllProper t.Opened t.sites := by
  -- What is asked of a pool, and when, follows from the books, so both go together.
  have hboth : Sound c t ∧ AllProper t.Opened t.sites := by
    refine h.invariant (I := fun t => Sound c t ∧ AllProper t.Opened t.sites) ?_
      ⟨sound_ofConfig c, fun _ hx => nomatch hx⟩
    rintro s t a ⟨hsound, hproper⟩ hstep
    refine ⟨hsound.step hstep, fun x hx => ?_⟩
    exact (hproper.move hsound (move_of_step hstep) x hx).publish (opened_mono hstep)
  exact hboth.2

end Fleet
end PoolHealth
