import PoolHealth.Proofs.Manager.Fleet
import Mathlib.Data.List.Nodup

/-!
# What a call has ordered

The sites that a call has ordered make up its portfolio, in the order in which they were
ordered.  Whatever happens to a site changes one entry of one portfolio.
-/

namespace PoolHealth

namespace Card

def ordered (i : Nat) (d : PoolDefinition) : Card := { builder := i, definition := d }

def refused (i : Nat) (d : PoolDefinition) (e : PoolError) : Card :=
  { ordered i d with made := some (.error e) }

def delivered (i : Nat) (d : PoolDefinition) : Card := { ordered i d with made := some (.ok ()) }

def warming (i : Nat) (d : PoolDefinition) : Card := { delivered i d with requests := [.warmUp] }

def warmed (i : Nat) (d : PoolDefinition) (r : Except PoolError Unit) : Card :=
  { warming i d with told := [r] }

def leaving (i : Nat) (d : PoolDefinition) : Card :=
  { warmed i d (.ok ()) with requests := [.warmUp, .shutDown] }

def left (i : Nat) (d : PoolDefinition) (r : Except PoolError Unit) : Card :=
  { leaving i d with told := [.ok (), r] }

def ask (r : PoolRequest) (x : Card) : Card := { x with requests := x.requests ++ [r] }

def tell (r : Except PoolError Unit) (x : Card) : Card := { x with told := x.told ++ [r] }

def answer (i : Nat) (r : Except PoolError Unit) (x : Card) : Card :=
  if x.builder = i ∧ x.made = none then { x with made := some r } else x

end Card

namespace Fleet

variable {s t : Fleet} {i j : Nat} {p : PoolRef} {x : Site} {card : Card}

def ledger (sites : List Site) : List (PoolRef × Card) :=
  sites.zipIdx.map fun e => (e.2, e.1.card)

/-- The sites that the call has ordered. -/
def portfolio (s : Fleet) (i : Nat) : List (PoolRef × Card) :=
  (ledger s.sites).filter fun e => e.2.builder = i

theorem mem_portfolio :
    (p, card) ∈ s.portfolio i <->
      exists x, s.sites[p]? = some x ∧ x.card = card ∧ card.builder = i := by
  unfold portfolio ledger
  rw [List.mem_filter, List.mem_map]
  constructor
  · rintro ⟨⟨⟨x, q⟩, hmem, heq⟩, hbuilder⟩
    cases heq
    exact ⟨x, List.mem_zipIdx_iff_getElem?.mp hmem, rfl, of_decide_eq_true hbuilder⟩
  · rintro ⟨x, hx, rfl, hbuilder⟩
    exact ⟨⟨(x, p), List.mem_zipIdx_iff_getElem?.mpr hx, rfl⟩, decide_eq_true hbuilder⟩

theorem mem_portfolio_of_site (h : s.sites[p]? = some x) :
    (p, x.card) ∈ s.portfolio x.card.builder := mem_portfolio.mpr ⟨x, h, rfl, rfl⟩

theorem nodup_portfolio (s : Fleet) (i : Nat) : ((s.portfolio i).map (fun e => e.1)).Nodup := by
  have hplaces : (ledger s.sites).map (fun e => e.1) = List.range s.sites.length := by
    unfold ledger
    rw [List.map_map, List.range_eq_range', ← List.zipIdx_map_snd]
    rfl
  have hnodup : ((ledger s.sites).map (fun e => e.1)).Nodup := by
    rw [hplaces]
    exact List.nodup_range
  exact (List.filter_sublist.map _).nodup hnodup

theorem card_unique {card' : Card} (h : (p, card) ∈ s.portfolio i)
    (h' : (p, card') ∈ s.portfolio j) : card = card' ∧ i = j := by
  rcases mem_portfolio.mp h with ⟨x, hx, rfl, rfl⟩
  rcases mem_portfolio.mp h' with ⟨x', hx', rfl, rfl⟩
  rw [hx] at hx'
  cases hx'
  exact ⟨rfl, rfl⟩

/-!
## How portfolios change
-/

theorem portfolio_map (g : PoolRef -> Card -> Card)
    (hbuilder : forall p card, (g p card).builder = card.builder)
    (h : forall p, (t.sites[p]?).map Site.card = (s.sites[p]?).map fun x => g p x.card) :
    t.portfolio i = (s.portfolio i).map fun e => (e.1, g e.1 e.2) := by
  have hledger : ledger t.sites = (ledger s.sites).map fun e => (e.1, g e.1 e.2) := by
    apply List.ext_getElem?
    intro p
    unfold ledger
    have hp := h p
    rw [List.getElem?_map, List.getElem?_map, List.getElem?_map, List.getElem?_zipIdx,
      List.getElem?_zipIdx]
    cases ht : t.sites[p]? with
    | none =>
        cases hs : s.sites[p]? with
        | none =>
            rfl
        | some x =>
            rw [ht, hs] at hp
            cases hp
    | some y =>
        cases hs : s.sites[p]? with
        | none =>
            rw [ht, hs] at hp
            cases hp
        | some x =>
            rw [ht, hs] at hp
            simpa using hp
  unfold portfolio
  rw [hledger, List.filter_map]
  congr 1
  apply List.filter_congr
  intro e _
  simp only [Function.comp, hbuilder]

theorem portfolio_same
    (h : forall p : PoolRef, (t.sites[p]?).map Site.card = (s.sites[p]?).map Site.card) :
    t.portfolio = s.portfolio := by
  funext i
  rw [portfolio_map (fun _ card => card) (fun _ _ => rfl) h]
  exact List.map_id' _

theorem portfolio_set {y : Site} (hx : s.sites[p]? = some x) (hy : y.card = x.card) :
    portfolio { s with sites := s.sites.set p y } = s.portfolio := by
  apply portfolio_same
  intro q
  show ((s.sites.set p y)[q]?).map Site.card = _
  rw [List.getElem?_set]
  by_cases hpq : p = q
  · subst hpq
    have hlt : p < s.sites.length := (List.getElem?_eq_some_iff.mp hx).1
    rw [if_pos rfl, if_pos hlt, hx, Option.map_some, Option.map_some, hy]
  · rw [if_neg hpq]

def revise (p : PoolRef) (f : Card -> Card) (es : List (PoolRef × Card)) :
    List (PoolRef × Card) :=
  es.map fun e => (e.1, if e.1 = p then f e.2 else e.2)

theorem portfolio_modify {f : Site -> Site} (g : Card -> Card)
    (hcard : forall x, (f x).card = g x.card)
    (hbuilder : forall card, (g card).builder = card.builder)
    (h : t.sites = s.sites.modify p f) : t.portfolio i = revise p g (s.portfolio i) := by
  apply portfolio_map (fun q card => if q = p then g card else card)
  · intro q card
    by_cases hq : q = p
    · rw [if_pos hq, hbuilder]
    · rw [if_neg hq]
  · intro q
    rw [h, List.getElem?_modify]
    cases s.sites[q]? with
    | none =>
        rfl
    | some x =>
        by_cases hq : p = q
        · simp [hq, hcard]
        · simp [hq, Ne.symm hq]

theorem portfolio_ask (r : PoolRequest) :
    (s.ask p r).portfolio i = revise p (Card.ask r) (s.portfolio i) :=
  portfolio_modify (Card.ask r) (fun _ => rfl) (fun _ => rfl) rfl

theorem portfolio_tell (r : Except PoolError Unit) :
    (s.tell p r).portfolio i = revise p (Card.tell r) (s.portfolio i) :=
  portfolio_modify (Card.tell r) (fun _ => rfl) (fun _ => rfl) rfl

theorem portfolio_answer (r : Except PoolError Unit) :
    (s.answer i r).portfolio j = (s.portfolio j).map fun e => (e.1, Card.answer i r e.2) := by
  apply portfolio_map (fun _ card => Card.answer i r card)
  · intro q card
    unfold Card.answer
    split
    · rfl
    · rfl
  · intro q
    show ((s.sites.map (Site.answer i r))[q]?).map Site.card = _
    rw [List.getElem?_map, Option.map_map]
    apply congrArg (fun f => Option.map f s.sites[q]?)
    funext x
    simp only [Function.comp, Site.answer, Card.answer]
    split
    · rfl
    · rfl

theorem portfolio_order (d : PoolDefinition) :
    (s.order i d).portfolio j
      = s.portfolio j ++ if i = j then [(s.sites.length, Card.ordered i d)] else [] := by
  have hledger : ledger (s.order i d).sites
      = ledger s.sites ++ [(s.sites.length, Card.ordered i d)] := by
    unfold ledger
    show ((s.sites ++ [({ card := Card.ordered i d } : Site)]).zipIdx).map _ = _
    rw [List.zipIdx_append, List.map_append, Nat.zero_add]
    rfl
  unfold portfolio
  rw [hledger, List.filter_append]
  congr 1
  by_cases hij : i = j
  · simp [Card.ordered, hij]
  · simp [Card.ordered, hij]

theorem revise_of_notMem {f : Card -> Card} {es : List (PoolRef × Card)}
    (h : p ∉ es.map (fun e => e.1)) : revise p f es = es := by
  unfold revise
  rw [List.map_congr_left (g := id), List.map_id]
  intro e he
  have hne : e.1 ≠ p := by
    intro heq
    exact h (List.mem_map.mpr ⟨e, he, heq⟩)
  rw [if_neg hne]
  rfl

theorem revise_middle {f : Card -> Card} {before after : List (PoolRef × Card)}
    (h : ((before ++ (p, card) :: after).map (fun e => e.1)).Nodup) :
    revise p f (before ++ (p, card) :: after) = before ++ (p, f card) :: after := by
  have hsplit : revise p f (before ++ (p, card) :: after)
      = revise p f before ++ (p, f card) :: revise p f after := by
    unfold revise
    rw [List.map_append, List.map_cons, if_pos rfl]
  rw [List.map_append, List.map_cons, List.nodup_append] at h
  rcases h with ⟨_, hafter, hdisjoint⟩
  have hbefore : revise p f before = before :=
    revise_of_notMem fun hmem => hdisjoint p hmem p List.mem_cons_self rfl
  rw [hsplit, hbefore, revise_of_notMem (List.nodup_cons.mp hafter).1]

/-- Only the call that has ordered a site has an entry of it that changes. -/
theorem revise_of_other {f : Card -> Card} (h : (p, card) ∈ s.portfolio i) (hne : j ≠ i) :
    revise p f (s.portfolio j) = s.portfolio j := by
  apply revise_of_notMem
  intro hmem
  rcases List.mem_map.mp hmem with ⟨⟨q, card'⟩, he, rfl⟩
  exact hne (card_unique he h).2

end Fleet
end PoolHealth
