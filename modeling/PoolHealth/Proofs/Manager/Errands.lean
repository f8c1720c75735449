import PoolHealth.Proofs.Manager.Bookkeeping

/-!
# Errands in the books

A call that closes all pools takes them over from the map and asks each of them once; a call
that checks all pools asks those that it has found in the map.  With these moves, and with those
that only concern the lock, all that can happen in a fleet keeps its books in order.
-/

namespace PoolHealth
namespace Fleet

variable {c : ManagerConfig} {s t : Fleet} {a : FleetAction} {i j : Nat} {k : ManagerCall}
  {p q : PoolRef} {card : Card} {lock : Semaphore} {name : String}
  {pools : List (String × PoolRef)} {errands : List (Errand (Except PoolError Unit))}

/-!
## Calls that only come and go
-/

theorem isPrivate_of_new (h : s.calls[s.calls.length]? = some k) : IsPrivate k := by
  rw [List.getElem?_eq_none (Nat.le_refl _)] at h
  cases h

theorem isPrivate_of_call {k' : ManagerCall} (hcall : s.calls[i]? = some k) (hk : IsPrivate k)
    (h : s.calls[i]? = some k') : IsPrivate k' := by
  rw [hcall] at h
  cases h
  exact hk

theorem Sound.lineUp {ticket : Ticket} {m : PoolManager} (h : Sound c s)
    (hticket : k.ticket? = some ticket) (hsame : SameRegister s.manager m)
    (horder : ((s.adopt m).put s.calls.length k).InOrder) :
    Sound c ((s.adopt m).put s.calls.length k) :=
  h.keep_private horder ⟨hsame.config, hsame.phase, hsame.pools, hsame.initialized⟩
    (Nat.le_refl _) rfl (fun _ _ => rfl) (fun _ => isPrivate_of_new)
    (fun hk => by rw [hk] at hticket; cases hticket)
    (fits_of_ticket? hticket (h.strangers _ (Nat.le_refl _)))

theorem Sound.linger {k' : ManagerCall} {ticket : Ticket} (h : Sound c s)
    (hcall : s.calls[i]? = some k) (hticket : k.ticket? = some ticket)
    (hsame : k'.ticket? = some ticket) (horder : ((s.adopt s.manager).put i k').InOrder) :
    Sound c ((s.adopt s.manager).put i k') :=
  h.keep_private horder ⟨rfl, rfl, rfl, rfl⟩ (lt_of_call hcall).le rfl (fun _ _ => rfl)
    (fun _ => isPrivate_of_call hcall (isPrivate_of_ticket? hticket))
    (fun hk => by rw [hk] at hsame; cases hsame)
    (fits_of_ticket? hsame ((h.fits i _ hcall).portfolio_of_ticket? hticket))

theorem Sound.turnedAway (h : Sound c s) (hgain : s.Gains a i lock)
    (haway : TurnedAway s.manager k) (horder : ((s.taking lock).releasing.put i k).InOrder) :
    Sound c ((s.taking lock).releasing.put i k) := by
  rcases h.of_gains hgain with ⟨hnone, hprivate⟩
  refine h.keep_private horder ⟨rfl, rfl, rfl, rfl⟩ hgain.le rfl (fun _ _ => rfl) hprivate
    (fun _ => hnone) ?_
  cases haway with
  | found hphase =>
      exact trivial
  | late hphase =>
      show Undone c i _ (s.portfolio i)
      rw [hnone]
      exact .late
  | faulty hphase hfault =>
      show Undone c i _ (s.portfolio i)
      rw [hnone]
      rw [h.config] at hfault
      exact .faulty hfault
  | done hphase =>
      exact ⟨hnone, hphase⟩

theorem Sound.inside (h : Sound c s) (horder : t.InOrder) (hmanager : t.manager = s.manager)
    (hcalls : t.calls = s.calls) (hportfolio : t.portfolio = s.portfolio) : Sound c t := by
  have hlaunched : forall p card, t.Launched p card <-> s.Launched p card := by
    intro p card
    unfold Launched
    rw [hcalls, hportfolio]
  have hsame : SameRegister s.manager t.manager := by
    rw [hmanager]
    exact .refl _
  have hstays : Stays s t := fun p card hcard =>
    ⟨card, (hlaunched p card).mpr hcard, card.alike_refl⟩
  refine ⟨horder, hsame.config.trans h.config, ?_, ?_, ?_, ?_, ?_, ?_⟩
  · intro j k hj
    rw [hcalls] at hj
    refine (h.fits j k hj).keep (congrFun hportfolio j) hstays.lasts (fun _ => ⟨hsame, hstays⟩) ?_
    rw [hmanager]
    exact id
  · intro j hj
    rw [hcalls] at hj
    rw [hportfolio]
    exact h.strangers j hj
  · intro hnone
    rw [hcalls] at hnone
    rw [hmanager]
    exact h.tidy hnone
  · rw [hmanager]
    exact h.names
  · intro name p hmem
    rw [hmanager] at hmem
    rcases h.registered name p hmem with ⟨card, hcard, hrest⟩
    exact ⟨card, (hlaunched p card).mpr hcard, hrest⟩
  · intro p card hcard
    have hdue : t.Due p <-> s.Due p := by
      unfold Due
      rw [hcalls]
    rw [hmanager, hdue]
    exact h.launched p card ((hlaunched p card).mp hcard)

/-!
## Closing all pools
-/

theorem due_of_ofCloseAll (h : t.calls[i]? = some (.ofCloseAll (.closing pools)))
    (hmem : (name, p) ∈ pools) : t.Due p := by
  rcases List.getElem?_of_mem hmem with ⟨n, hn⟩
  refine ⟨i, pools, _, n, name, h, hn, ?_⟩
  rw [List.getElem?_map, hn]
  rfl

theorem Sound.takenOver (h : Sound c s) (htidy : Tidy c s.manager)
    (hnot : s.manager.phase ≠ .closed) (hphase : t.manager.phase = s.manager.phase)
    (hinitialized : t.manager.initialized = s.manager.initialized)
    (hempty : t.manager.pools = [])
    (hlaunched : forall p card, s.Launched p card -> t.Launched p card) :
    t.Closing s.manager.pools (s.manager.pools.map fun _ => .due) where
  phase := by rw [hphase]; exact hnot
  emptied := hempty
  initialized := by
    rw [hphase, hinitialized]
    constructor
    · intro hready
      by_contra hnot
      rw [(htidy.empty hnot).2] at hready
      cases hready
    · exact fun hready => (htidy.complete hready).1
  length := List.length_map _
  names := h.names
  asked := by
    intro j name p e hpool he
    rw [List.getElem?_map, hpool] at he
    cases he
    rcases h.registered name p (List.mem_of_getElem? hpool) with ⟨card, hcard, hname, hcount⟩
    exact ⟨card, hlaunched p card hcard, hname, hcount⟩

/-- The pools are taken over from the map, and each of them is still to be asked. -/
theorem Sound.closing (h : Sound c s) (hgain : s.Gains a i lock)
    (hphase : s.manager.phase ≠ .closed)
    (ht : t = (s.adopt { s.manager with lifecycle := lock, pools := [] }).put i
      (.ofCloseAll (.closing s.manager.pools)))
    (horder : t.InOrder) : Sound c t := by
  rcases h.of_gains hgain with ⟨hnone, hprivate⟩
  rcases h.tidy_of_gains hgain with ⟨hnobody, htidy⟩
  have hcalls : t.calls = (s.put i (.ofCloseAll (.closing s.manager.pools))).calls := by
    rw [ht]
    rfl
  have hothers : forall j, j ≠ i -> t.portfolio j = s.portfolio j := by
    rw [ht]
    exact fun _ _ => rfl
  have hpools : t.manager.pools = [] := by
    rw [ht]
    rfl
  have hmine : t.calls[i]? = some (.ofCloseAll (.closing s.manager.pools)) :=
    call_of_put hgain.le hcalls
  have hlaunched : forall p card, t.Launched p card <-> s.Launched p card :=
    fun _ _ => launched_put_iff hgain.le hcalls hothers (fun hok => (hprivate _ hok).1 rfl) nofun
  have hothers' : forall j, j ≠ i ->
      t.portfolio j = s.portfolio j ∨ s.calls[j]? = some (.broughtUp (.ok ())) :=
    fun j hj => Or.inl (hothers j hj)
  refine ⟨horder, ?_, fun j k' hj => ?_, fun _ => h.strangers_put hgain.le hcalls hothers',
    fun hnone => ?_, ?_, ?_, fun p card hcard => ?_⟩
  · rw [ht]
    exact h.config
  · refine h.fits_put hgain.le hcalls hothers'
      (fun p card hcard => ⟨card, (hlaunched p card).mpr hcard⟩) ?_ ?_ ?_ hj
    · intro j k' _ hj hholds
      rw [hnobody j k' hj] at hholds
      cases hholds
    · exact fun hclosed => absurd hclosed hphase
    · subst ht
      exact ⟨hnone, h.takenOver htidy hphase rfl rfl rfl fun p card => (hlaunched p card).mpr⟩
  · cases hnone _ (List.mem_of_getElem? hmine)
  · rw [hpools]
    exact List.nodup_nil
  · rw [hpools]
    exact nofun
  · rcases h.launched p card ((hlaunched p card).mp hcard) with ⟨hdefinition, htold, hcount⟩
    refine ⟨hdefinition, htold, ?_⟩
    rcases hcount with hone | ⟨hzero, ⟨name, hmem⟩ | ⟨j, pools, errands, n, name, hj, _, _⟩⟩
    · exact Or.inl hone
    · exact Or.inr ⟨hzero, Or.inr (due_of_ofCloseAll hmine hmem)⟩
    · cases not_isClosing_of_not_holds (hnobody j _ hj)

theorem launched_unique {card' : Card} (h : s.Launched p card) (h' : s.Launched p card') :
    card = card' := by
  rcases h with ⟨_, _, hmem⟩
  rcases h' with ⟨_, _, hmem'⟩
  exact (card_unique hmem hmem').1

/-- A pool that is closed has one name, and is closed under that name only. -/
theorem Closing.place_unique {j' : Nat} {name' : String} (h : s.Closing pools errands)
    (hpool : pools[j]? = some (name, p)) (hpool' : pools[j']? = some (name', p)) : j = j' := by
  have herrand : forall {n : Nat} {x : String}, pools[n]? = some (x, p) ->
      exists e, errands[n]? = some e := by
    intro n x hn
    have hlt := (List.getElem?_eq_some_iff.mp hn).1
    rw [← h.length] at hlt
    exact ⟨_, List.getElem?_eq_getElem hlt⟩
  rcases herrand hpool with ⟨e, he⟩
  rcases herrand hpool' with ⟨e', he'⟩
  rcases h.asked j name p e hpool he with ⟨card, hcard, hname, _⟩
  rcases h.asked j' name' p e' hpool' he' with ⟨card', hcard', hname', _⟩
  have hsame : name = name' := by rw [← hname, ← hname', launched_unique hcard hcard']
  have hat : (pools.map fun e => e.1)[j]? = (pools.map fun e => e.1)[j']? := by
    rw [List.getElem?_map, List.getElem?_map, hpool, hpool', hsame]
  have hlt : j < (pools.map fun e => e.1).length := by
    rw [List.length_map]
    exact (List.getElem?_eq_some_iff.mp hpool).1
  exact (List.getElem?_inj hlt h.names).mp hat

theorem launched_ask_iff {r : PoolRequest} (hle : i ≤ s.calls.length)
    (hbefore : s.calls[i]? ≠ some (.broughtUp (.ok ()))) (hk : k ≠ .broughtUp (.ok ())) :
    ((s.put i k).ask p r).Launched q card <->
      exists card', s.Launched q card' ∧ card = if q = p then card'.ask r else card' := by
  have hcalls : forall j : Nat, ((s.put i k).ask p r).calls[j]? = some (.broughtUp (.ok ())) <->
      s.calls[j]? = some (.broughtUp (.ok ())) := by
    intro j
    have hput : ((s.put i k).ask p r).calls = (s.put i k).calls := rfl
    by_cases hji : j = i
    · subst hji
      rw [call_of_put hle hput]
      exact iff_of_false (fun hok => hk (Option.some.inj hok)) hbefore
    · rw [call_of_put_of_ne hle hput hji]
  unfold Launched
  constructor
  · rintro ⟨j, hj, hmem⟩
    rw [portfolio_ask] at hmem
    rcases List.mem_map.mp hmem with ⟨⟨q', card'⟩, hmem', heq⟩
    cases heq
    exact ⟨card', ⟨j, (hcalls j).mp hj, hmem'⟩, rfl⟩
  · rintro ⟨card', ⟨j, hj, hmem⟩, rfl⟩
    refine ⟨j, (hcalls j).mpr hj, ?_⟩
    rw [portfolio_ask]
    exact List.mem_map.mpr ⟨_, hmem, rfl⟩

/-- Only one call closes pools at a time, so that whatever is due is due in that call. -/
theorem Sound.due_of_closing (h : Sound c s)
    (hcall : s.calls[i]? = some (.closeAll (.closing pools) errands)) (hdue : s.Due q) :
    exists (n : Nat) (name : String), pools[n]? = some (name, q) ∧ errands[n]? = some .due := by
  rcases hdue with ⟨i', pools', errands', n, name, hi', hq, hn⟩
  have hii : i' = i := by
    by_contra hne
    cases h.order.alone hcall rfl hi' hne
  subst hii
  rw [hcall] at hi'
  cases hi'
  exact ⟨n, name, hq, hn⟩

theorem portfolio_ask_launched {r : PoolRequest} (h : s.Launched p card) :
    forall j, (s.ask p r).portfolio j = s.portfolio j ∨
      s.calls[j]? = some (.broughtUp (.ok ())) := by
  intro j
  rcases h with ⟨b, hb, hmem⟩
  by_cases hjb : j = b
  · subst hjb
    exact Or.inr hb
  · rw [portfolio_ask, revise_of_other hmem hjb]
    exact Or.inl rfl

theorem portfolio_ask_nil {r : PoolRequest} (h : s.portfolio i = []) :
    (s.ask p r).portfolio i = [] := by
  rw [portfolio_ask, h]
  rfl

structure Sends (s t : Fleet) (i j : Nat) (pools : List (String × PoolRef))
    (errands : List (Errand (Except PoolError Unit))) (p : PoolRef) : Prop where
  call : s.calls[i]? = some (.closeAll (.closing pools) errands)
  pool : exists name, pools[j]? = some (name, p)
  due : errands[j]? = some .due
  manager : t.manager = s.manager
  calls : t.calls = (s.put i (.closeAll (.closing pools) (errands.set j .running))).calls
  launched_iff : forall q card, t.Launched q card <->
    exists card', s.Launched q card' ∧ card = if q = p then card'.ask .shutDown else card'

namespace Sends

theorem asked (h : Sends s t i j pools errands p) (hcard : s.Launched p card) :
    t.Launched p (card.ask .shutDown) :=
  (h.launched_iff p _).mpr ⟨card, hcard, (if_pos rfl).symm⟩

theorem spared (h : Sends s t i j pools errands p) (hqp : q ≠ p) (hcard : s.Launched q card) :
    t.Launched q card :=
  (h.launched_iff q _).mpr ⟨card, hcard, (if_neg hqp).symm⟩

theorem lasts (h : Sends s t i j pools errands p) : Lasts s t := by
  intro q card hcard
  by_cases hqp : q = p
  · subst hqp
    exact ⟨_, h.asked hcard⟩
  · exact ⟨card, h.spared hqp hcard⟩

theorem closing (h : Sends s t i j pools errands p) (hclosing : s.Closing pools errands) :
    t.Closing pools (errands.set j .running) where
  phase := by rw [h.manager]; exact hclosing.phase
  emptied := by rw [h.manager]; exact hclosing.emptied
  initialized := by rw [h.manager]; exact hclosing.initialized
  length := by rw [List.length_set]; exact hclosing.length
  names := hclosing.names
  asked := by
    intro n name' q e hq he
    rcases h.pool with ⟨name, hpool⟩
    by_cases hn : n = j
    · subst hn
      rcases hclosing.asked n name p .due hpool h.due with ⟨card, hcard, hname, hzero⟩
      rw [hpool] at hq
      cases hq
      rw [List.getElem?_set_self (List.getElem?_eq_some_iff.mp h.due).1] at he
      cases he
      refine ⟨_, h.asked hcard, hname, ?_⟩
      rw [Card.ask, List.count_append, hzero]
      rfl
    · rw [List.getElem?_set_ne (Ne.symm hn)] at he
      rcases hclosing.asked n name' q e hq he with ⟨card, hcard, hname, hcount⟩
      have hqp : q ≠ p := by
        rintro rfl
        exact hn (hclosing.place_unique hq hpool)
      exact ⟨card, h.spared hqp hcard, hname, hcount⟩

theorem stays_due (h : Sends s t i j pools errands p) (hsound : Sound c s) (hqp : q ≠ p)
    (hdue : s.Due q) : t.Due q := by
  rcases hsound.due_of_closing h.call hdue with ⟨n, name', hq, hn⟩
  have hnj : n ≠ j := by
    rintro rfl
    rcases h.pool with ⟨name, hpool⟩
    rw [hpool] at hq
    cases hq
    exact hqp rfl
  refine ⟨i, pools, _, n, name', call_of_put (lt_of_call h.call).le h.calls, hq, ?_⟩
  rw [List.getElem?_set_ne (Ne.symm hnj)]
  exact hn

theorem launched (h : Sends s t i j pools errands p) (hsound : Sound c s)
    (hclosing : s.Closing pools errands) (hcard : t.Launched q card) :
    card.definition ∈ c.pools ∧ card.told = [.ok ()] ∧
      (card.requests.count .shutDown = 1 ∨ card.requests.count .shutDown = 0 ∧
        ((exists name, (name, q) ∈ t.manager.pools) ∨ t.Due q)) := by
  rcases (h.launched_iff q card).mp hcard with ⟨card₀, hcard₀, rfl⟩
  rcases hsound.launched q card₀ hcard₀ with ⟨hdefinition, htold, hcount⟩
  by_cases hqp : q = p
  · subst hqp
    rcases h.pool with ⟨name, hpool⟩
    rcases hclosing.asked j name q .due hpool h.due with ⟨card, hcard, -, hzero⟩
    rw [if_pos rfl]
    refine ⟨hdefinition, htold, Or.inl ?_⟩
    rw [launched_unique hcard₀ hcard, Card.ask, List.count_append, hzero]
    rfl
  · rw [if_neg hqp, h.manager]
    refine ⟨hdefinition, htold, ?_⟩
    rcases hcount with hone | ⟨hzero, hmem | hdue⟩
    · exact Or.inl hone
    · exact Or.inr ⟨hzero, Or.inl hmem⟩
    · exact Or.inr ⟨hzero, Or.inr (h.stays_due hsound hqp hdue)⟩

end Sends

theorem Sound.sendClose (h : Sound c s)
    (hcall : s.calls[i]? = some (.closeAll (.closing pools) errands))
    (hpool : pools[j]? = some (name, p)) (hdue : errands[j]? = some .due)
    (ht : t = (s.put i (.closeAll (.closing pools) (errands.set j .running))).ask p .shutDown)
    (horder : t.InOrder) : Sound c t := by
  rcases h.fits i _ hcall with ⟨hnone, hclosing⟩
  rcases hclosing.asked j name p .due hpool hdue with ⟨card, hcard, -, -⟩
  have hle := (lt_of_call hcall).le
  have hsends : Sends s t i j pools errands p := by
    subst ht
    refine ⟨hcall, ⟨name, hpool⟩, hdue, rfl, rfl, fun q card => launched_ask_iff hle ?_ nofun⟩
    rw [hcall]
    exact nofun
  have hothers : forall n, n ≠ i ->
      t.portfolio n = s.portfolio n ∨ s.calls[n]? = some (.broughtUp (.ok ())) := by
    rw [ht]
    exact fun n _ => portfolio_ask_launched hcard n
  refine ⟨horder, ?_, fun n k' hn => ?_, fun _ => h.strangers_put hle hsends.calls hothers,
    fun hnobody => ?_, ?_, ?_, fun _ _ => hsends.launched h hclosing⟩
  · rw [hsends.manager]
    exact h.config
  · refine h.fits_put hle hsends.calls hothers hsends.lasts ?_ ?_ ?_ hn
    · intro n k' hni hn hholds
      rw [h.order.alone hcall rfl hn hni] at hholds
      cases hholds
    · rw [hsends.manager]
      exact id
    · refine ⟨?_, hsends.closing hclosing⟩
      rw [ht]
      exact portfolio_ask_nil hnone
  · cases hnobody _ (List.mem_of_getElem? (call_of_put hle hsends.calls))
  · rw [hsends.manager]
    exact h.names
  · rw [hsends.manager, hclosing.emptied]
    exact nofun

theorem Closing.ended {answer : Option (Except PoolError Unit)} (h : s.Closing pools errands)
    (hrunning : errands[j]? = some .running) : s.Closing pools (errands.set j (.ended answer)) where
  phase := h.phase
  emptied := h.emptied
  initialized := h.initialized
  length := by rw [List.length_set]; exact h.length
  names := h.names
  asked := by
    intro n name q e hq he
    by_cases hn : n = j
    · subst hn
      rw [List.getElem?_set_self (List.getElem?_eq_some_iff.mp hrunning).1] at he
      cases he
      exact h.asked n name q .running hq hrunning
    · rw [List.getElem?_set_ne (Ne.symm hn)] at he
      exact h.asked n name q e hq he

theorem Sound.closeOver {k : CloseAll} {answer : Option (Except PoolError Unit)} (h : Sound c s)
    (hcall : s.calls[i]? = some (.closeAll k errands)) (hrunning : errands[j]? = some .running)
    (ht : t = s.put i (.closeAll k (errands.set j (.ended answer)))) (horder : t.InOrder) :
    Sound c t := by
  have hfits := h.fits i _ hcall
  have hle := (lt_of_call hcall).le
  subst ht
  have hlaunched : forall p card, Launched (s.put i (.closeAll k (errands.set j (.ended answer))))
      p card <-> s.Launched p card := by
    refine fun _ _ => launched_put_iff hle rfl (fun _ _ => rfl) ?_ nofun
    rw [hcall]
    exact nofun
  have hstays : Stays s (s.put i (.closeAll k (errands.set j (.ended answer)))) :=
    fun p card hcard => ⟨card, (hlaunched p card).mpr hcard, card.alike_refl⟩
  have hmine : (s.put i (.closeAll k (errands.set j (.ended answer)))).calls[i]?
      = some (.closeAll k (errands.set j (.ended answer))) := call_of_put hle rfl
  refine h.keep horder (.refl _) hle rfl (fun _ _ => Or.inl rfl) hstays
    (fun p card hcard => ⟨card, (hlaunched p card).mp hcard, card.alike_refl⟩) ?_ ?_ ?_
  · rintro p ⟨i', pools, errands', n, name, hi', hp, hn⟩
    by_cases hii : i' = i
    · subst hii
      rw [hcall] at hi'
      cases hi'
      have hnj : n ≠ j := by
        rintro rfl
        rw [hrunning] at hn
        cases hn
      refine ⟨i', pools, _, n, name, hmine, hp, ?_⟩
      rw [List.getElem?_set_ne (Ne.symm hnj)]
      exact hn
    · refine ⟨i', pools, errands', n, name, ?_, hp, hn⟩
      rw [call_of_put_of_ne hle rfl hii]
      exact hi'
  · intro hnobody k' hk'
    rcases List.getElem?_of_mem hk' with ⟨i', hi'⟩
    by_cases hii : i' = i
    · subst hii
      rw [hcall] at hi'
      cases hi'
      have hnot := hnobody _ (List.mem_of_getElem? hmine)
      cases k with
      | queued ticket =>
          rfl
      | closing pools =>
          cases hnot
    · apply hnobody k'
      apply List.mem_of_getElem? (i := i')
      rw [call_of_put_of_ne hle rfl hii]
      exact hi'
  · cases k with
    | queued ticket =>
        exact hfits
    | closing pools =>
        exact ⟨hfits.1, (hfits.2.ended hrunning).keep (.refl _) hstays⟩

theorem Sound.closed (h : Sound c s)
    (hcall : s.calls[i]? = some (.closeAll (.closing pools) errands))
    (hover : errands.all Errand.isOver = true)
    (ht : t = (s.adopt (PoolManager.releaseLock
      { s.manager with phase := .closed, initialized := false })).put i .allClosed)
    (horder : t.InOrder) : Sound c t := by
  rcases h.fits i _ hcall with ⟨hnone, hclosing⟩
  have hle := (lt_of_call hcall).le
  have hcalls : t.calls = (s.put i .allClosed).calls := by
    rw [ht]
    rfl
  have hpools : t.manager.pools = [] := by
    rw [ht]
    exact hclosing.emptied
  have hphase : t.manager.phase = .closed := by
    rw [ht]
    rfl
  have hothers : forall j, j ≠ i -> t.portfolio j = s.portfolio j := by
    rw [ht]
    exact fun _ _ => rfl
  have hothers' : forall j, j ≠ i ->
      t.portfolio j = s.portfolio j ∨ s.calls[j]? = some (.broughtUp (.ok ())) :=
    fun j hj => Or.inl (hothers j hj)
  have hlaunched : forall p card, t.Launched p card <-> s.Launched p card := by
    refine fun _ _ => launched_put_iff hle hcalls hothers ?_ nofun
    rw [hcall]
    exact nofun
  refine ⟨horder, ?_, fun n k' hn => ?_, fun _ => h.strangers_put hle hcalls hothers',
    fun _ => ⟨fun _ => ⟨hpools, ?_⟩, fun hready => ?_⟩, ?_, ?_, fun q card hcard => ?_⟩
  · rw [ht]
    exact h.config
  · refine h.fits_put hle hcalls hothers'
      (fun q card hcard => ⟨card, (hlaunched q card).mpr hcard⟩) ?_ (fun _ => hphase) ?_ hn
    · intro n k' hni hn hholds
      rw [h.order.alone hcall rfl hn hni] at hholds
      cases hholds
    · refine ⟨?_, hphase⟩
      rw [ht]
      exact hnone
  · rw [ht]
    rfl
  · rw [hphase] at hready
    cases hready
  · rw [hpools]
    exact List.nodup_nil
  · rw [hpools]
    exact nofun
  · rcases h.launched q card ((hlaunched q card).mp hcard) with ⟨hdefinition, htold, hcount⟩
    refine ⟨hdefinition, htold, ?_⟩
    rcases hcount with hone | ⟨-, ⟨name, hmem⟩ | hdue⟩
    · exact Or.inl hone
    · rw [hclosing.emptied] at hmem
      cases hmem
    · -- The call has nothing left to ask.
      rcases h.due_of_closing hcall hdue with ⟨n, name, _, hn⟩
      cases List.all_eq_true.mp hover _ (List.mem_of_getElem? hn)

/-!
## Checking all pools
-/

theorem Sound.checking (h : Sound c s)
    (horder : (s.put s.calls.length (.ofCheckAll (CheckAll.start s.manager))).InOrder) :
    Sound c (s.put s.calls.length (.ofCheckAll (CheckAll.start s.manager))) := by
  have hlaunched : forall p card,
      Launched (s.put s.calls.length (.ofCheckAll (CheckAll.start s.manager))) p card <->
        s.Launched p card := by
    refine fun _ _ => launched_put_iff (Nat.le_refl _) rfl (fun _ _ => rfl) ?_ nofun
    exact fun hok => (isPrivate_of_new hok).1 rfl
  refine h.keep_private horder (.refl _) (Nat.le_refl _) rfl (fun _ _ => rfl)
    (fun _ => isPrivate_of_new) nofun
    ⟨h.strangers _ (Nat.le_refl _), List.length_map _, h.names, ?_⟩
  intro name p hmem
  rcases h.registered name p hmem with ⟨card, hcard, _⟩
  exact ⟨card, (hlaunched p card).mpr hcard⟩

theorem Sound.check (h : Sound c s) {k : CheckAll} {checks : List (Errand Bool)}
    {k' : ManagerCall} (hcall : s.calls[i]? = some (.checkAll k checks))
    (hnot : k' ≠ .broughtUp (.ok ()))
    (hfits : s.portfolio i = [] -> (s.put i k').Checking k checks.length ->
      Fits c (s.put i k') i k')
    (horder : (s.put i k').InOrder) : Sound c (s.put i k') := by
  rcases h.fits i _ hcall with ⟨hnone, hchecking⟩
  have hle := (lt_of_call hcall).le
  have hlaunched : forall p card, Launched (s.put i k') p card <-> s.Launched p card := by
    refine fun _ _ => launched_put_iff hle rfl (fun _ _ => rfl) ?_ (fun hok => absurd hok hnot)
    rw [hcall]
    exact nofun
  refine h.keep_private horder (.refl _) hle rfl (fun _ _ => rfl)
    (fun _ => isPrivate_of_call hcall ⟨nofun, rfl⟩) (fun hok => absurd hok hnot) (hfits hnone ?_)
  exact hchecking.keep fun p card hcard => ⟨card, (hlaunched p card).mpr hcard⟩

theorem Sound.sendCheck {k : CheckAll} {checks : List (Errand Bool)} (h : Sound c s)
    (hcall : s.calls[i]? = some (.checkAll k checks)) (hpool : k.pools[j]? = some (name, p))
    (ht : t = (s.put i (.checkAll k (checks.set j .running))).ask p .checkup)
    (horder : t.InOrder) : Sound c t := by
  rcases h.fits i _ hcall with ⟨hnone, hchecking⟩
  rcases hchecking.launched name p (List.mem_of_getElem? hpool) with ⟨card, hcard⟩
  have hle := (lt_of_call hcall).le
  have hprivate : forall k', s.calls[i]? = some k' -> IsPrivate k' :=
    fun _ => isPrivate_of_call hcall ⟨nofun, rfl⟩
  subst ht
  have hlaunched : forall {q : PoolRef} {card : Card},
      ((s.put i (.checkAll k (checks.set j .running))).ask p .checkup).Launched q card <->
        exists card', s.Launched q card' ∧ card = if q = p then card'.ask .checkup else card' :=
    launched_ask_iff hle (fun hok => (hprivate _ hok).1 rfl) nofun
  have halike : forall (q : PoolRef) (card : Card),
      card.Alike (if q = p then card.ask .checkup else card) := by
    intro q card
    split
    · refine ⟨rfl, rfl, ?_⟩
      rw [Card.ask, List.count_append]
      rfl
    · exact card.alike_refl
  have hstays : Stays s ((s.put i (.checkAll k (checks.set j .running))).ask p .checkup) :=
    fun q card' hcard' => ⟨_, hlaunched.mpr ⟨card', hcard', rfl⟩, halike q card'⟩
  refine h.keep horder (.refl _) hle rfl (fun j _ => portfolio_ask_launched hcard j) hstays ?_
    (fun _ hdue => due_put (t := (s.put i _).ask p .checkup) hle rfl hprivate hdue)
    (closing_put hle rfl hprivate)
    ⟨portfolio_ask_nil hnone, ?_⟩
  · intro q card' hcard'
    rcases hlaunched.mp hcard' with ⟨card₀, hcard₀, rfl⟩
    exact ⟨card₀, hcard₀, halike q card₀⟩
  · rw [List.length_set]
    exact hchecking.keep hstays.lasts

/-!
## All moves
-/

theorem Sound.step (h : Sound c s) (hstep : s.step a = some t) : Sound c t := by
  have horder := h.order.step hstep
  cases move_of_step hstep with
  | lineUp hticket hbusy =>
      exact h.lineUp hticket ⟨rfl, rfl, rfl, rfl⟩ horder
  | linger hcall hticket hsame =>
      exact h.linger hcall hticket hsame horder
  | turnedAway hgain haway =>
      exact h.turnedAway hgain haway horder
  | proceeds hproceeds =>
      exact h.goOn hproceeds horder
  | built hcall hordered =>
      exact h.built hcall hordered horder
  | fails hfails =>
      exact h.rollBack hfails horder
  | closing hgain hphase =>
      exact h.closing hgain hphase rfl horder
  | closed hcall hover =>
      exact h.closed hcall hover rfl horder
  | checking =>
      exact h.checking horder
  | checked hcall =>
      refine h.check hcall nofun (fun hnone hchecking => ⟨hnone, ?_, rfl⟩) horder
      rw [List.length_map] at hchecking
      exact hchecking
  | sendClose hcall hpool hdue =>
      exact h.sendClose hcall hpool hdue rfl horder
  | sendCheck hcall hpool hdue =>
      exact h.sendCheck hcall hpool rfl horder
  | closeOver hcall hrunning =>
      exact h.closeOver hcall hrunning rfl horder
  | checkOver hcall hrunning =>
      refine h.check hcall nofun (fun hnone hchecking => ⟨hnone, ?_⟩) horder
      rw [List.length_set]
      exact hchecking
  | build hx hmade hempty | inside hx hi hallowed hact =>
      exact h.inside horder rfl rfl (portfolio_set hx rfl)

theorem Run.sound {log : Log} (h : Run (ofConfig c) log t) : Sound c t :=
  h.invariant Sound.step (sound_ofConfig c)

end Fleet
end PoolHealth
