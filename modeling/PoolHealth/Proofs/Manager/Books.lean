import PoolHealth.Proofs.Manager.Names
import PoolHealth.Proofs.Manager.Portfolio
import PoolHealth.Proofs.Manager.Turns

/-!
# The books of a fleet

What a call has done so far can be read off its portfolio: the definitions before the one that
it works at have pools that are started, and none behind it was ordered.  The manager's map has
exactly the pools of one call that has succeeded, and nobody asked one of them to shut itself
down.  When all pools are closed the map is emptied first, and from then on each of them is
still to be asked or was asked once.
-/

namespace PoolHealth

namespace ManagerCall

def isClosing : ManagerCall -> Bool
  | closeAll (.closing _) _ => true
  | bringUp _ | broughtUp _ | closeAll (.queued _) _ | allClosed | checkAll _ _
  | allChecked _ _ _ => false

end ManagerCall

/-- Two cards of one pool that differ only in how often it was asked to check itself. -/
structure Card.Alike (x y : Card) : Prop where
  definition : y.definition = x.definition
  told : y.told = x.told
  requests : y.requests.count .shutDown = x.requests.count .shutDown

theorem Card.alike_refl (x : Card) : x.Alike x := ⟨rfl, rfl, rfl⟩

namespace Fleet

/-- A definition, and the place where its pool stands. -/
abbrev Placed := PoolDefinition × PoolRef

def label (x : Placed) : String × PoolRef := (x.1.name, x.2)

def started (i : Nat) (x : Placed) : PoolRef × Card := (x.2, .warmed i x.1 (.ok ()))

def left (i : Nat) (x : Placed × Except PoolError Unit) : PoolRef × Card :=
  (x.1.2, .left i x.1.1 x.2)

inductive Failed (i : Nat) (d : PoolDefinition) (e : PoolError) : Card -> Prop where
  | refused : Failed i d e (.refused i d e)
  | cold : Failed i d e (.warmed i d (.error e))

/-- Where a call that brings pools up stands, and what it has ordered. -/
inductive Underway (c : ManagerConfig) (i : Nat) : BringUp -> List (PoolRef × Card) -> Prop where
  | queued (ticket : Ticket) : Underway c i (.queued ticket) []
  | building {done : List Placed} {d : PoolDefinition} {p : PoolRef} {rest : List PoolDefinition}
      (hpools : c.pools = done.map Prod.fst ++ d :: rest) :
      Underway c i (.building d rest (done.map label)) (done.map (started i) ++ [(p, .ordered i d)])
  | warming {done : List Placed} {d : PoolDefinition} {p : PoolRef} {rest : List PoolDefinition}
      (hpools : c.pools = done.map Prod.fst ++ d :: rest) :
      Underway c i (.warming d p rest (done.map label))
        (done.map (started i) ++ [(p, .warming i d)])
  | rollingBack {gone : List (Placed × Except PoolError Unit)} {d₀ d : PoolDefinition}
      {p q : PoolRef} {todo : List Placed} {rest : List PoolDefinition} {e : PoolError}
      {card : Card}
      (hpools : c.pools
        = gone.map (fun x => x.1.1) ++ d₀ :: (todo.map Prod.fst ++ d :: rest))
      (hfailed : Failed i d e card) :
      Underway c i (.rollingBack p (todo.map label) (.poolInitialization d.name e))
        (gone.map (left i) ++ (p, .leaving i d₀) :: (todo.map (started i) ++ [(q, card)]))

inductive Undone (c : ManagerConfig) (i : Nat) : ManagerError -> List (PoolRef × Card) -> Prop where
  | late : Undone c i .alreadyClosed []
  | faulty {e : ManagerError} (hfault : c.fault? = some e) : Undone c i e []
  | rolledBack {gone : List (Placed × Except PoolError Unit)} {d : PoolDefinition} {q : PoolRef}
      {rest : List PoolDefinition} {e : PoolError} {card : Card} (hfault : c.fault? = none)
      (hpools : c.pools = gone.map (fun x => x.1.1) ++ d :: rest) (hfailed : Failed i d e card) :
      Undone c i (.poolInitialization d.name e) (gone.map (left i) ++ [(q, card)])

variable {c : ManagerConfig} {s t u : Fleet} {a : FleetAction} {i j : Nat} {k k' : ManagerCall}
  {p : PoolRef} {card : Card}

/-- The call that has brought the pool in that place up is over, and nothing has failed. -/
def Launched (s : Fleet) (p : PoolRef) (card : Card) : Prop :=
  exists j, s.calls[j]? = some (.broughtUp (.ok ())) ∧ (p, card) ∈ s.portfolio j

/-- The pool is one of those that a call closes, and was not asked yet. -/
def Due (s : Fleet) (p : PoolRef) : Prop :=
  exists (i : Nat) (pools : List (String × PoolRef))
    (errands : List (Errand (Except PoolError Unit))) (j : Nat) (name : String),
    s.calls[i]? = some (.closeAll (.closing pools) errands) ∧ pools[j]? = some (name, p) ∧
      errands[j]? = some .due

/-- A call closes all pools: the map is empty, and each pool was asked once or is still to be
asked. -/
structure Closing (s : Fleet) (pools : List (String × PoolRef))
    (errands : List (Errand (Except PoolError Unit))) : Prop where
  phase : s.manager.phase ≠ .closed
  emptied : s.manager.pools = []
  initialized : s.manager.initialized = true <-> s.manager.phase = .ready
  length : errands.length = pools.length
  names : (pools.map (fun e => e.1)).Nodup
  asked : forall (j : Nat) (name : String) (p : PoolRef) (e : Errand (Except PoolError Unit)),
    pools[j]? = some (name, p) -> errands[j]? = some e ->
      exists card, s.Launched p card ∧ card.definition.name = name ∧
        card.requests.count .shutDown = if e = .due then 0 else 1

/-- A call checks pools that have been launched, and has as many errands. -/
structure Checking (s : Fleet) (k : CheckAll) (errands : Nat) : Prop where
  length : errands = k.pools.length
  names : (k.pools.map (fun e => e.1)).Nodup
  launched : forall name p, (name, p) ∈ k.pools -> exists card, s.Launched p card

def Fits (c : ManagerConfig) (s : Fleet) (i : Nat) : ManagerCall -> Prop
  | .bringUp k =>
      Underway c i k (s.portfolio i) ∧
        ((ManagerCall.bringUp k).holds = true ->
          s.manager.phase = .uninitialized ∧ c.fault? = none)
  | .broughtUp (.ok _) => True
  | .broughtUp (.error e) => Undone c i e (s.portfolio i)
  | .closeAll (.queued _) _ => s.portfolio i = []
  | .closeAll (.closing pools) errands => s.portfolio i = [] ∧ s.Closing pools errands
  | .allClosed => s.portfolio i = [] ∧ s.manager.phase = .closed
  | .checkAll k errands => s.portfolio i = [] ∧ s.Checking k errands.length
  | .allChecked k outcomes verdicts =>
      s.portfolio i = [] ∧ s.Checking k outcomes.length ∧ verdicts = k.verdicts outcomes

/-- The map is complete if the manager is ready, and it is empty otherwise. -/
structure Tidy (c : ManagerConfig) (m : PoolManager) : Prop where
  empty : m.phase ≠ .ready -> m.pools = [] ∧ m.initialized = false
  complete : m.phase = .ready ->
    m.initialized = true ∧ c.fault? = none ∧
      (m.pools.map (fun e => e.1)).Perm (c.pools.map PoolDefinition.name)

structure Sound (c : ManagerConfig) (s : Fleet) : Prop where
  order : s.InOrder
  config : s.manager.config = c
  fits : forall i k, s.calls[i]? = some k -> Fits c s i k
  strangers : forall i, s.calls.length ≤ i -> s.portfolio i = []
  tidy : (forall k, k ∈ s.calls -> k.isClosing = false) -> Tidy c s.manager
  names : (s.manager.pools.map (fun e => e.1)).Nodup
  registered : forall name p, (name, p) ∈ s.manager.pools ->
    exists card, s.Launched p card ∧ card.definition.name = name ∧
      card.requests.count .shutDown = 0
  launched : forall p card, s.Launched p card ->
    card.definition ∈ c.pools ∧ card.told = [.ok ()] ∧
      (card.requests.count .shutDown = 1 ∨ card.requests.count .shutDown = 0 ∧
        ((exists name, (name, p) ∈ s.manager.pools) ∨ s.Due p))

theorem sound_ofConfig (c : ManagerConfig) : Sound c (ofConfig c) where
  order := inOrder_ofConfig c
  config := rfl
  fits := fun i k h => nomatch h
  strangers := fun _ _ => rfl
  tidy := fun _ => ⟨fun _ => ⟨rfl, rfl⟩, nofun⟩
  names := List.nodup_nil
  registered := fun _ _ h => nomatch h
  launched := by
    rintro p card ⟨j, hcall, _⟩
    cases hcall

/-!
## Those who are not concerned
-/

/-- What the manager has written down has not changed, but for the lock and its advisors. -/
structure SameRegister (m m' : PoolManager) : Prop where
  config : m'.config = m.config
  phase : m'.phase = m.phase
  pools : m'.pools = m.pools
  initialized : m'.initialized = m.initialized

def Lasts (s t : Fleet) : Prop :=
  forall p card, s.Launched p card -> exists card', t.Launched p card'

/-- Pools that have been launched stay so, and nobody asks them to shut down. -/
def Stays (s t : Fleet) : Prop :=
  forall p card, s.Launched p card -> exists card', t.Launched p card' ∧ card.Alike card'

theorem Stays.lasts (h : Stays s t) : Lasts s t := by
  intro p card hcard
  rcases h p card hcard with ⟨card', hcard', _⟩
  exact ⟨card', hcard'⟩

theorem Closing.keep {pools : List (String × PoolRef)}
    {errands : List (Errand (Except PoolError Unit))} (h : s.Closing pools errands)
    (hsame : SameRegister s.manager t.manager) (hstays : Stays s t) : t.Closing pools errands where
  phase := by rw [hsame.phase]; exact h.phase
  emptied := hsame.pools.trans h.emptied
  initialized := by rw [hsame.initialized, hsame.phase]; exact h.initialized
  length := h.length
  names := h.names
  asked := by
    intro j name p e hpool he
    rcases h.asked j name p e hpool he with ⟨card, hcard, hname, hcount⟩
    rcases hstays p card hcard with ⟨card', hcard', halike⟩
    refine ⟨card', hcard', ?_, ?_⟩
    · rw [halike.definition, hname]
    · rw [halike.requests, hcount]

theorem Checking.keep {k : CheckAll} {n : Nat} (h : s.Checking k n) (hlasts : Lasts s t) :
    t.Checking k n where
  length := h.length
  names := h.names
  launched := by
    intro name p hmem
    rcases h.launched name p hmem with ⟨card, hcard⟩
    exact hlasts p card hcard

/-- A call keeps what it has done as long as its portfolio is left alone, and nobody else
writes anything down if it holds the lock. -/
theorem Fits.keep (h : Fits c s j k) (hportfolio : t.portfolio j = s.portfolio j)
    (hlasts : Lasts s t)
    (hsame : k.holds = true -> SameRegister s.manager t.manager ∧ Stays s t)
    (hclosed : s.manager.phase = .closed -> t.manager.phase = .closed) : Fits c t j k := by
  cases k with
  | bringUp k =>
      refine ⟨hportfolio ▸ h.1, ?_⟩
      intro hholds
      rw [(hsame hholds).1.phase]
      exact h.2 hholds
  | broughtUp r =>
      cases r with
      | ok _ =>
          exact trivial
      | error e =>
          show Undone c j e (t.portfolio j)
          rw [hportfolio]
          exact h
  | closeAll k errands =>
      cases k with
      | queued ticket =>
          exact hportfolio.trans h
      | closing pools =>
          exact ⟨hportfolio.trans h.1, h.2.keep (hsame rfl).1 (hsame rfl).2⟩
  | allClosed =>
      exact ⟨hportfolio.trans h.1, hclosed h.2⟩
  | checkAll k errands =>
      exact ⟨hportfolio.trans h.1, h.2.keep hlasts⟩
  | allChecked k outcomes verdicts =>
      exact ⟨hportfolio.trans h.1, h.2.1.keep hlasts, h.2.2⟩

theorem Tidy.keep {m m' : PoolManager} (h : Tidy c m) (hsame : SameRegister m m') : Tidy c m' where
  empty := by
    rw [hsame.phase, hsame.pools, hsame.initialized]
    exact h.empty
  complete := by
    rw [hsame.phase, hsame.pools, hsame.initialized]
    exact h.complete

theorem Sound.fits_put (h : Sound c s) (hle : i ≤ s.calls.length)
    (hcalls : t.calls = (s.put i k).calls)
    (hothers : forall j, j ≠ i ->
      t.portfolio j = s.portfolio j ∨ s.calls[j]? = some (.broughtUp (.ok ())))
    (hlasts : Lasts s t)
    (hsame : forall (j : Nat) (k' : ManagerCall), j ≠ i -> s.calls[j]? = some k' ->
      k'.holds = true -> SameRegister s.manager t.manager ∧ Stays s t)
    (hclosed : s.manager.phase = .closed -> t.manager.phase = .closed) (hfits : Fits c t i k)
    (hj : t.calls[j]? = some k') : Fits c t j k' := by
  rcases cases_of_put hle hcalls hj with ⟨rfl, rfl⟩ | ⟨hji, hj⟩
  · exact hfits
  · rcases hothers j hji with hportfolio | hlaunched
    · exact (h.fits j k' hj).keep hportfolio hlasts (hsame j k' hji hj) hclosed
    · rw [hlaunched] at hj
      cases hj
      exact trivial

theorem Sound.strangers_put (h : Sound c s) (hle : i ≤ s.calls.length)
    (hcalls : t.calls = (s.put i k).calls)
    (hothers : forall j, j ≠ i ->
      t.portfolio j = s.portfolio j ∨ s.calls[j]? = some (.broughtUp (.ok ())))
    (hj : t.calls.length ≤ j) : t.portfolio j = [] := by
  rw [hcalls, length_put hle] at hj
  rcases hothers j (by omega) with hportfolio | hlaunched
  · rw [hportfolio]
    exact h.strangers j (by omega)
  · have hlt := lt_of_call hlaunched
    omega

/-- A call has gone on, and the map has not changed. -/
theorem Sound.keep (h : Sound c s) (horder : t.InOrder)
    (hsame : SameRegister s.manager t.manager) (hle : i ≤ s.calls.length)
    (hcalls : t.calls = (s.put i k).calls)
    (hothers : forall j, j ≠ i ->
      t.portfolio j = s.portfolio j ∨ s.calls[j]? = some (.broughtUp (.ok ())))
    (hstays : Stays s t)
    (hback : forall p card', t.Launched p card' ->
      exists card, s.Launched p card ∧ card.Alike card')
    (hdue : forall p, s.Due p -> t.Due p)
    (hclosing : (forall k, k ∈ t.calls -> k.isClosing = false) ->
      forall k, k ∈ s.calls -> k.isClosing = false)
    (hfits : Fits c t i k) : Sound c t where
  order := horder
  config := hsame.config.trans h.config
  fits := fun _ _ => h.fits_put hle hcalls hothers hstays.lasts
    (fun _ _ _ _ _ => ⟨hsame, hstays⟩) (fun hphase => hsame.phase.trans hphase) hfits
  strangers := fun _ => h.strangers_put hle hcalls hothers
  tidy := fun hnone => (h.tidy (hclosing hnone)).keep hsame
  names := by rw [hsame.pools]; exact h.names
  registered := by
    intro name p hmem
    rw [hsame.pools] at hmem
    rcases h.registered name p hmem with ⟨card, hcard, hname, hcount⟩
    rcases hstays p card hcard with ⟨card', hcard', halike⟩
    refine ⟨card', hcard', ?_, ?_⟩
    · rw [halike.definition, hname]
    · rw [halike.requests, hcount]
  launched := by
    intro p card' hcard'
    rcases hback p card' hcard' with ⟨card, hcard, halike⟩
    rcases h.launched p card hcard with ⟨hdefinition, htold, hcount⟩
    rw [halike.definition, halike.told, halike.requests, hsame.pools]
    refine ⟨hdefinition, htold, ?_⟩
    rcases hcount with hone | ⟨hnone, hpool | hpool⟩
    · exact Or.inl hone
    · exact Or.inr ⟨hnone, Or.inl hpool⟩
    · exact Or.inr ⟨hnone, Or.inr (hdue p hpool)⟩

def IsPrivate (k : ManagerCall) : Prop := k ≠ .broughtUp (.ok ()) ∧ k.isClosing = false

theorem launched_put_iff (hle : i ≤ s.calls.length) (hcalls : t.calls = (s.put i k).calls)
    (hothers : forall j, j ≠ i -> t.portfolio j = s.portfolio j)
    (hbefore : s.calls[i]? ≠ some (.broughtUp (.ok ())))
    (hafter : k = .broughtUp (.ok ()) -> t.portfolio i = []) :
    t.Launched p card <-> s.Launched p card := by
  unfold Launched
  constructor
  · rintro ⟨j, hj, hmem⟩
    rcases cases_of_put hle hcalls hj with ⟨rfl, hk⟩ | ⟨hji, hj⟩
    · rw [hafter hk.symm] at hmem
      cases hmem
    · rw [hothers j hji] at hmem
      exact ⟨j, hj, hmem⟩
  · rintro ⟨j, hj, hmem⟩
    have hji : j ≠ i := by
      rintro rfl
      exact hbefore hj
    refine ⟨j, ?_, ?_⟩
    · rw [call_of_put_of_ne hle hcalls hji]
      exact hj
    · rw [hothers j hji]
      exact hmem

theorem due_put (hle : i ≤ s.calls.length) (hcalls : t.calls = (s.put i k).calls)
    (hbefore : forall k, s.calls[i]? = some k -> IsPrivate k) (h : s.Due p) : t.Due p := by
  rcases h with ⟨j, pools, errands, n, name, hj, hpool, hdue⟩
  have hji : j ≠ i := by
    rintro rfl
    cases (hbefore _ hj).2
  refine ⟨j, pools, errands, n, name, ?_, hpool, hdue⟩
  rw [call_of_put_of_ne hle hcalls hji]
  exact hj

theorem closing_put (hle : i ≤ s.calls.length) (hcalls : t.calls = (s.put i k).calls)
    (hbefore : forall k, s.calls[i]? = some k -> IsPrivate k)
    (hnone : forall k, k ∈ t.calls -> k.isClosing = false) :
    forall k, k ∈ s.calls -> k.isClosing = false := by
  intro k' hk'
  rcases List.getElem?_of_mem hk' with ⟨j, hj⟩
  by_cases hji : j = i
  · subst hji
    exact (hbefore _ hj).2
  · apply hnone k'
    apply List.mem_of_getElem? (i := j)
    rw [call_of_put_of_ne hle hcalls hji]
    exact hj

theorem Sound.keep_private (h : Sound c s) (horder : t.InOrder)
    (hsame : SameRegister s.manager t.manager) (hle : i ≤ s.calls.length)
    (hcalls : t.calls = (s.put i k).calls)
    (hothers : forall j, j ≠ i -> t.portfolio j = s.portfolio j)
    (hbefore : forall k, s.calls[i]? = some k -> IsPrivate k)
    (hafter : k = .broughtUp (.ok ()) -> t.portfolio i = [])
    (hfits : Fits c t i k) : Sound c t := by
  have hlaunched : forall p card, t.Launched p card <-> s.Launched p card :=
    fun _ _ => launched_put_iff hle hcalls hothers (fun hok => (hbefore _ hok).1 rfl) hafter
  refine h.keep horder hsame hle hcalls (fun j hj => Or.inl (hothers j hj)) ?_ ?_
    (fun _ => due_put hle hcalls hbefore) (closing_put hle hcalls hbefore) hfits
  · intro p card hcard
    exact ⟨card, (hlaunched p card).mpr hcard, card.alike_refl⟩
  · intro p card hcard
    exact ⟨card, (hlaunched p card).mp hcard, card.alike_refl⟩

end Fleet
end PoolHealth
