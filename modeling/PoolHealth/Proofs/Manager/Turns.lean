import PoolHealth.Proofs.Manager.Moves
import PoolHealth.Proofs.Pool.Lines

/-!
# Turns

Calls that bring pools up or close them take turns: one of them holds the lifecycle lock, and
the others stand in line with tickets.  At most one call holds the lock at any time, and if
nobody does and calls wait, then it is the turn of one of them.
-/

namespace PoolHealth
namespace Fleet

variable {s t u : Fleet} {a : FleetAction} {i : Nat} {k k' : ManagerCall}

/-!
## Putting a call in its place
-/

def others (s : Fleet) (i : Nat) : List ManagerCall := s.calls.take i ++ s.calls.drop (i + 1)

theorem perm_calls (h : i ≤ s.calls.length) :
    s.calls.Perm ((s.calls[i]?).toList ++ s.others i) := by
  have hcalls : s.calls = s.calls.take i ++ ((s.calls[i]?).toList ++ s.calls.drop (i + 1)) := by
    rcases Nat.lt_or_eq_of_le h with hlt | rfl
    · rw [List.getElem?_eq_getElem hlt, Option.toList_some, List.singleton_append,
        List.cons_getElem_drop_succ, List.take_append_drop]
    · simp
  have hperm := List.perm_append_comm_assoc (s.calls.take i) (s.calls[i]?).toList
    (s.calls.drop (i + 1))
  rw [← hcalls] at hperm
  exact hperm

theorem mem_others {j : Nat} (hcall : s.calls[j]? = some k) (hne : j ≠ i) : k ∈ s.others i := by
  rcases Nat.lt_or_gt_of_ne hne with hlt | hgt
  · apply List.mem_append_left
    apply List.mem_of_getElem? (i := j)
    rw [List.getElem?_take_of_lt hlt, hcall]
  · apply List.mem_append_right
    apply List.mem_of_getElem? (i := j - (i + 1))
    rw [List.getElem?_drop, ← hcall]
    exact congrArg _ (by omega)

theorem perm_put (s : Fleet) (i : Nat) (k : ManagerCall) :
    (s.put i k).calls.Perm (k :: s.others i) := List.perm_middle

theorem getElem?_put (h : i ≤ s.calls.length) (k : ManagerCall) (j : Nat) :
    (s.put i k).calls[j]? = if j = i then some k else s.calls[j]? := by
  have hlength : (s.calls.take i).length = i := List.length_take_of_le h
  show (s.calls.take i ++ k :: s.calls.drop (i + 1))[j]? = _
  rcases Nat.lt_trichotomy j i with hlt | rfl | hgt
  · rw [List.getElem?_append_left (by omega), if_neg (by omega), List.getElem?_take_of_lt hlt]
  · rw [List.getElem?_append_right (by omega), hlength, Nat.sub_self, if_pos rfl]
    rfl
  · rcases Nat.exists_eq_add_of_le (Nat.succ_le_of_lt hgt) with ⟨n, rfl⟩
    rw [List.getElem?_append_right (by omega), hlength, if_neg (by omega)]
    have hindex : i + 1 + n - i = n + 1 := by omega
    rw [hindex, List.getElem?_cons_succ, List.getElem?_drop]

theorem call_of_put (h : i ≤ s.calls.length) (hcalls : t.calls = (s.put i k).calls) :
    t.calls[i]? = some k := by
  rw [hcalls, getElem?_put h, if_pos rfl]

theorem call_of_put_of_ne {j : Nat} (h : i ≤ s.calls.length) (hcalls : t.calls = (s.put i k).calls)
    (hne : j ≠ i) : t.calls[j]? = s.calls[j]? := by
  rw [hcalls, getElem?_put h, if_neg hne]

theorem cases_of_put {j : Nat} (h : i ≤ s.calls.length) (hcalls : t.calls = (s.put i k).calls)
    (hj : t.calls[j]? = some k') : j = i ∧ k' = k ∨ j ≠ i ∧ s.calls[j]? = some k' := by
  by_cases hji : j = i
  · subst hji
    rw [call_of_put h hcalls] at hj
    exact Or.inl ⟨rfl, (Option.some.inj hj).symm⟩
  · rw [call_of_put_of_ne h hcalls hji] at hj
    exact Or.inr ⟨hji, hj⟩

theorem length_put (h : i ≤ s.calls.length) (k : ManagerCall) :
    (s.put i k).calls.length = max s.calls.length (i + 1) := by
  show (s.calls.take i ++ k :: s.calls.drop (i + 1)).length = _
  rw [List.length_append, List.length_take_of_le h, List.length_cons, List.length_drop]
  omega

theorem calls_put_congr (h : u.calls = s.calls) : (u.put i k).calls = (s.put i k).calls := by
  unfold put
  rw [h]

theorem lt_of_call (h : s.calls[i]? = some k) : i < s.calls.length :=
  (List.getElem?_eq_some_iff.mp h).1

theorem Gains.le {lock : Semaphore} (h : s.Gains a i lock) : i ≤ s.calls.length := by
  cases h with
  | atOnce htaken =>
      exact Nat.le_refl _
  | inTurn hcall hticket hturn =>
      exact (lt_of_call hcall).le

/-!
## What a move does to the lock
-/

/-- How the calls and the lock change: nobody has to do with the lock, somebody gets in line, or
the lock is taken, passed on, or both. -/
inductive LockMove (s t : Fleet) : Prop where
  | rest (hcalls : t.calls = s.calls) (hlock : t.manager.lifecycle = s.manager.lifecycle)
  | goOn {i : Nat} {k k' : ManagerCall} (hcall : s.calls[i]? = some k)
      (hcalls : t.calls = (s.put i k').calls) (hticket : k'.ticket? = k.ticket?)
      (hholds : k'.holds = k.holds) (hlock : t.manager.lifecycle = s.manager.lifecycle)
  | come {k' : ManagerCall} (hcalls : t.calls = (s.put s.calls.length k').calls)
      (hticket : k'.ticket? = none) (hholds : k'.holds = false)
      (hlock : t.manager.lifecycle = s.manager.lifecycle)
  | lineUp {k' : ManagerCall} (hcalls : t.calls = (s.put s.calls.length k').calls)
      (hticket : k'.ticket? = some s.manager.lifecycle.nextTicket)
      (hbusy : forall lock, s.manager.lifecycle.tryTake ≠ .taken lock)
      (hlock : t.manager.lifecycle = s.manager.lifecycle.wait)
  | take {a : FleetAction} {i : Nat} {lock : Semaphore} {k' : ManagerCall}
      (hgain : s.Gains a i lock) (hcalls : t.calls = (s.put i k').calls)
      (hticket : k'.ticket? = none) (hholds : k'.holds = true)
      (hlock : t.manager.lifecycle = lock)
  | visit {a : FleetAction} {i : Nat} {lock : Semaphore} {k' : ManagerCall}
      (hgain : s.Gains a i lock) (hcalls : t.calls = (s.put i k').calls)
      (hticket : k'.ticket? = none) (hholds : k'.holds = false)
      (hlock : t.manager.lifecycle = lock.release)
  | leave {i : Nat} {k k' : ManagerCall} (hcall : s.calls[i]? = some k)
      (hbefore : k.holds = true) (hcalls : t.calls = (s.put i k').calls)
      (hticket : k'.ticket? = none) (hholds : k'.holds = false)
      (hlock : t.manager.lifecycle = s.manager.lifecycle.release)

theorem ticket?_of_holds (h : k.holds = true) : k.ticket? = none := by
  cases k with
  | bringUp k =>
      cases k with
      | queued ticket =>
          cases h
      | building d rest started | warming d p rest started | rollingBack p rest e =>
          rfl
  | closeAll k errands =>
      cases k with
      | queued ticket =>
          cases h
      | closing pools =>
          rfl
  | broughtUp r | allClosed | checkAll k errands | allChecked k outcomes verdicts =>
      cases h

theorem holds_of_ticket? {ticket : Ticket} (h : k.ticket? = some ticket) : k.holds = false := by
  cases hholds : k.holds with
  | false =>
      rfl
  | true =>
      rw [ticket?_of_holds hholds] at h
      cases h

structure GoesOn (u : Fleet) (i : Nat) (k : ManagerCall) (v : Fleet) : Prop where
  calls : v.calls = (u.put i k).calls
  ticket : k.ticket? = none
  lock : k.holds = true ∧ v.manager.lifecycle = u.manager.lifecycle ∨
    k.holds = false ∧ v.manager.lifecycle = u.manager.lifecycle.release

theorem goesOn_goOn (u : Fleet) (i : Nat) (started : List (String × PoolRef))
    (rest : List PoolDefinition) :
    exists k, GoesOn u i k (u.followBringUp i (BringUp.goOn u.manager started rest)) := by
  cases rest with
  | nil =>
      exact ⟨.broughtUp (.ok ()), rfl, rfl, Or.inr ⟨rfl, rfl⟩⟩
  | cons d rest =>
      exact ⟨.bringUp (.building d rest started), rfl, rfl, Or.inl ⟨rfl, rfl⟩⟩

theorem goesOn_rollBack (u : Fleet) (i : Nat) (e : ManagerError)
    (started : List (String × PoolRef)) :
    exists k, GoesOn u i k (u.followBringUp i (BringUp.rollBack u.manager e started)) := by
  cases started with
  | nil =>
      exact ⟨.broughtUp (.error e), rfl, rfl, Or.inr ⟨rfl, rfl⟩⟩
  | cons x rest =>
      exact ⟨.bringUp (.rollingBack x.2 rest e), rfl, rfl, Or.inl ⟨rfl, rfl⟩⟩

theorem Fails.core {e : ManagerError} {started : List (String × PoolRef)}
    (h : s.Fails a i u e started) :
    (exists k, s.calls[i]? = some k ∧ k.holds = true) ∧ u.calls = s.calls ∧
      u.manager = s.manager := by
  cases h with
  | unbuilt hcall | cold hcall htell | undone hcall htell =>
      exact ⟨⟨_, hcall, rfl⟩, rfl, rfl⟩

theorem Move.lockMove (h : s.Move a t) : LockMove s t := by
  cases h with
  | lineUp hticket hbusy =>
      exact .lineUp rfl hticket hbusy rfl
  | linger hcall hticket hsame =>
      refine .goOn hcall rfl (hsame.trans hticket.symm) ?_ rfl
      rw [holds_of_ticket? hticket, holds_of_ticket? hsame]
  | turnedAway hgain haway =>
      cases haway with
      | found hphase | late hphase | faulty hphase hfault | done hphase =>
          exact .visit hgain rfl rfl rfl rfl
  | proceeds h =>
      rename_i i u started rest
      rcases goesOn_goOn u i started rest with
        ⟨k, hcalls, hticket, ⟨hholds, hlock⟩ | ⟨hholds, hlock⟩⟩
      · cases h with
        | begun hgain hphase hfault =>
            exact .take hgain hcalls hticket hholds hlock
        | warmed hcall htell =>
            exact .goOn hcall hcalls hticket hholds hlock
      · cases h with
        | begun hgain hphase hfault =>
            exact .visit hgain hcalls hticket hholds hlock
        | warmed hcall htell =>
            exact .leave hcall rfl hcalls hticket hholds hlock
  | fails h =>
      rename_i i u e started
      rcases h.core with ⟨⟨k, hcall, hbefore⟩, hsame, hmanager⟩
      rcases goesOn_rollBack u i e started with ⟨k', hcalls, hticket, hend⟩
      rw [calls_put_congr hsame] at hcalls
      rcases hend with ⟨hholds, hlock⟩ | ⟨hholds, hlock⟩
      · refine .goOn hcall hcalls (hticket.trans (ticket?_of_holds hbefore).symm)
          (hholds.trans hbefore.symm) ?_
        rw [hlock, hmanager]
      · refine .leave hcall hbefore hcalls hticket hholds ?_
        rw [hlock, hmanager]
  | closing hgain hphase =>
      exact .take hgain rfl rfl rfl rfl
  | closed hcall hover =>
      exact .leave hcall rfl rfl rfl rfl rfl
  | checking =>
      exact .come rfl rfl rfl rfl
  | built hcall horder | checked hcall | sendClose hcall hpool hdue | sendCheck hcall hpool hdue
  | checkOver hcall hrunning =>
      exact .goOn hcall rfl rfl rfl rfl
  | closeOver hcall hrunning =>
      rename_i k errands answer
      cases k with
      | queued ticket | closing pools =>
          exact .goOn hcall rfl rfl rfl rfl
  | build hx hmade hempty | inside hx hi hallowed hact =>
      exact .rest rfl rfl

/-!
## Calls that are over
-/

theorem notOver_of_ticket? {ticket : Ticket} (h : k.ticket? = some ticket) : k.isOver = false := by
  cases k with
  | bringUp k | closeAll k errands | checkAll k errands =>
      rfl
  | broughtUp r | allClosed | allChecked k outcomes verdicts =>
      cases h

theorem Gains.notOver {lock : Semaphore} (h : s.Gains a i lock) (hcall : s.calls[i]? = some k) :
    k.isOver = false := by
  cases h with
  | atOnce htaken =>
      rw [List.getElem?_eq_none (Nat.le_refl _)] at hcall
      cases hcall
  | inTurn hbefore hticket hturn =>
      rw [hbefore] at hcall
      cases hcall
      exact notOver_of_ticket? hticket

theorem Gains.comes {lock : Semaphore} (h : s.Gains a i lock) :
    i = s.calls.length ∨ a.call? = some i := by
  cases h with
  | atOnce htaken =>
      exact Or.inl rfl
  | inTurn hcall hticket hturn =>
      exact Or.inr rfl

inductive CallMove (s : Fleet) (a : FleetAction) (t : Fleet) : Prop where
  | none (hcalls : t.calls = s.calls)
  | one {i : Nat} {k : ManagerCall} (hle : i ≤ s.calls.length)
      (hcalls : t.calls = (s.put i k).calls)
      (hover : forall k', s.calls[i]? = some k' -> k'.isOver = false)
      (hcomes : i = s.calls.length ∨ a.call? = some i)

theorem CallMove.one_of_call (hcall : s.calls[i]? = some k) (hnot : k.isOver = false)
    (hcalls : t.calls = (s.put i k').calls) (hcomes : a.call? = some i) : CallMove s a t := by
  refine .one (lt_of_call hcall).le hcalls ?_ (Or.inr hcomes)
  intro k'' hk''
  rw [hcall] at hk''
  cases hk''
  exact hnot

theorem CallMove.one_of_gains {lock : Semaphore} (hgain : s.Gains a i lock)
    (hcalls : t.calls = (s.put i k').calls) : CallMove s a t :=
  .one hgain.le hcalls (fun _ => hgain.notOver) hgain.comes

theorem Move.callMove (h : s.Move a t) : CallMove s a t := by
  cases h with
  | lineUp hticket hbusy | checking =>
      refine .one (Nat.le_refl _) rfl ?_ (Or.inl rfl)
      intro k' hk'
      rw [List.getElem?_eq_none (Nat.le_refl _)] at hk'
      cases hk'
  | linger hcall hticket hsame =>
      exact .one_of_call hcall (notOver_of_ticket? hticket) rfl rfl
  | turnedAway hgain haway | closing hgain hphase =>
      exact .one_of_gains hgain rfl
  | proceeds h =>
      rename_i i u started rest
      rcases goesOn_goOn u i started rest with ⟨k, hcalls, _⟩
      cases h with
      | begun hgain hphase hfault =>
          exact .one_of_gains hgain hcalls
      | warmed hcall htell =>
          exact .one_of_call hcall rfl hcalls rfl
  | fails h =>
      rename_i i u e started
      rcases goesOn_rollBack u i e started with ⟨k, hcalls, _⟩
      cases h with
      | unbuilt hcall | cold hcall htell | undone hcall htell =>
          exact .one_of_call hcall rfl hcalls rfl
  | built hcall horder | checked hcall | closed hcall hover | sendClose hcall hpool hdue
  | sendCheck hcall hpool hdue | closeOver hcall hrunning | checkOver hcall hrunning =>
      exact .one_of_call hcall rfl rfl rfl
  | build hx hmade hempty | inside hx hi hallowed hact =>
      exact .none rfl

theorem stays_of_other (hstep : s.step a = some t) (hcall : s.calls[i]? = some k)
    (hother : a.call? ≠ some i) : t.calls[i]? = some k := by
  cases (move_of_step hstep).callMove with
  | none hcalls =>
      rw [hcalls]
      exact hcall
  | one hle hcalls hnot hcomes =>
      rename_i j k'
      have hne : i ≠ j := by
        rintro rfl
        rcases hcomes with hnew | hsame
        · exact absurd (lt_of_call hcall) (by omega)
        · exact hother hsame
      rw [call_of_put_of_ne hle hcalls hne]
      exact hcall

theorem stays_over (hstep : s.step a = some t) (hcall : s.calls[i]? = some k)
    (hover : k.isOver = true) : t.calls[i]? = some k := by
  cases (move_of_step hstep).callMove with
  | none hcalls =>
      rw [hcalls]
      exact hcall
  | one hle hcalls hnot hcomes =>
      rename_i j k'
      have hne : i ≠ j := by
        rintro rfl
        rw [hnot k hcall] at hover
        cases hover
      rw [call_of_put_of_ne hle hcalls hne]
      exact hcall

/-!
## The lock and the line
-/

/-- The lock is to be had or one call holds it, and the line consists of the calls that wait. -/
structure InTurn (lock : Semaphore) (calls : List ManagerCall) : Prop where
  held : lock.available + calls.countP ManagerCall.holds = 1
  line : Lined lock (calls.filterMap ManagerCall.ticket?)
  isOpen : lock.closed = false
  /-- The lock is free only if nobody is in line for it. -/
  greedy : lock.free = 0 ∨ lock.queue = []

namespace InTurn

variable {lock lock' : Semaphore} {calls calls' : List ManagerCall} {ticket : Ticket}

theorem perm (h : InTurn lock calls) (hperm : calls'.Perm calls) : InTurn lock calls' where
  held := by rw [hperm.countP_eq]; exact h.held
  line := h.line.perm (hperm.filterMap _)
  isOpen := h.isOpen
  greedy := h.greedy

theorem same (h : InTurn lock ((s.calls[i]?).toList ++ calls))
    (hticket : k'.ticket? = (s.calls[i]?).bind ManagerCall.ticket?)
    (hholds : k'.holds = (s.calls[i]?).any ManagerCall.holds) : InTurn lock (k' :: calls) := by
  cases hcall : s.calls[i]? with
  | none =>
      rw [hcall] at h hticket hholds
      refine ⟨?_, ?_, h.isOpen, h.greedy⟩
      · rw [List.countP_cons_of_neg (by rw [hholds]; exact Bool.false_ne_true)]
        exact h.held
      · rw [List.filterMap_cons_none hticket]
        exact h.line
  | some k =>
      rw [hcall] at h hticket hholds
      have hheld := h.held
      have hline := h.line
      simp only [Option.toList_some, List.singleton_append, List.countP_cons,
        List.filterMap_cons] at hheld hline
      refine ⟨?_, ?_, h.isOpen, h.greedy⟩
      · rw [List.countP_cons, hholds]
        exact hheld
      · rw [List.filterMap_cons, hticket]
        exact hline

theorem lineUp (h : InTurn lock calls) (hticket : k.ticket? = some lock.nextTicket)
    (hbusy : forall lock', lock.tryTake ≠ .taken lock') : InTurn lock.wait (k :: calls) := by
  have hnone : lock.free = 0 := by
    by_contra hfree
    apply hbusy { lock with free := lock.free - 1 }
    unfold Semaphore.tryTake
    rw [h.isOpen, if_neg hfree]
    rfl
  refine ⟨?_, ?_, h.isOpen, Or.inl hnone⟩
  · rw [List.countP_cons_of_neg (by rw [holds_of_ticket? hticket]; exact Bool.false_ne_true)]
    exact h.held
  · rw [List.filterMap_cons_some hticket]
    exact h.line.wait h.isOpen

theorem take (h : InTurn lock calls) (htaken : lock.tryTake = .taken lock')
    (hholds : k.holds = true) : InTurn lock' (k :: calls) := by
  have havailable := Semaphore.available_of_taken htaken
  have hheld := h.held
  refine ⟨?_, ?_, (Semaphore.not_closed_of_taken htaken).2, ?_⟩
  · rw [List.countP_cons_of_pos hholds]
    omega
  · rw [List.filterMap_cons_none (ticket?_of_holds hholds)]
    exact h.line.sameLine (.of_taken htaken)
  · rcases h.greedy with hfree | hqueue
    · unfold Semaphore.tryTake at htaken
      rw [h.isOpen, hfree] at htaken
      cases htaken
    · exact Or.inr ((Semaphore.SameLine.of_taken htaken).queue hqueue)

theorem collect (h : InTurn lock (k :: calls)) (hticket : k.ticket? = some ticket)
    (hturn : lock.standing ticket = .promised) (hholds : k'.holds = true) :
    InTurn (lock.collect ticket) (k' :: calls) := by
  have havailable := Semaphore.available_of_promised hturn
  have hheld := h.held
  have hline := h.line
  rw [List.countP_cons_of_neg
    (by rw [holds_of_ticket? hticket]; exact Bool.false_ne_true)] at hheld
  rw [List.filterMap_cons_some hticket] at hline
  refine ⟨?_, ?_, h.isOpen, h.greedy⟩
  · rw [List.countP_cons_of_pos hholds]
    omega
  · rw [List.filterMap_cons_none (ticket?_of_holds hholds)]
    exact hline.collect (Semaphore.mem_promised_of_standing hturn).2

theorem release (h : InTurn lock (k :: calls)) (hholds : k.holds = true)
    (hticket' : k'.ticket? = none) (hholds' : k'.holds = false) :
    InTurn lock.release (k' :: calls) := by
  have hheld := h.held
  have hline := h.line
  rw [List.countP_cons_of_pos hholds] at hheld
  rw [List.filterMap_cons_none (ticket?_of_holds hholds)] at hline
  refine ⟨?_, ?_, (Semaphore.closed_release lock).trans h.isOpen, ?_⟩
  · rw [List.countP_cons_of_neg (by rw [hholds']; exact Bool.false_ne_true),
      Semaphore.available_release]
    omega
  · rw [List.filterMap_cons_none hticket']
    exact hline.sameLine (.release lock)
  · unfold Semaphore.release
    split
    · rename_i hqueue
      exact Or.inr hqueue
    · rename_i hqueue
      rcases h.greedy with hfree | hnone
      · exact Or.inl hfree
      · rw [hnone] at hqueue
        cases hqueue

theorem gain (h : InTurn s.manager.lifecycle ((s.calls[i]?).toList ++ calls))
    (hgain : s.Gains a i lock) (hholds : k'.holds = true) : InTurn lock (k' :: calls) := by
  cases hgain with
  | atOnce htaken =>
      rw [List.getElem?_eq_none (Nat.le_refl _)] at h
      exact h.take htaken hholds
  | inTurn hcall hticket hturn =>
      rw [hcall] at h
      exact h.collect hticket hturn hholds

end InTurn

def InOrder (s : Fleet) : Prop := InTurn s.manager.lifecycle s.calls

theorem inOrder_ofConfig (c : ManagerConfig) : InOrder (ofConfig c) where
  held := rfl
  line := .ofPermits 1
  isOpen := rfl
  greedy := Or.inr rfl

theorem InOrder.step (h : s.InOrder) (hstep : s.step a = some t) : t.InOrder := by
  unfold InOrder at h ⊢
  have hsplit : forall {i : Nat}, i ≤ s.calls.length ->
      InTurn s.manager.lifecycle ((s.calls[i]?).toList ++ s.others i) :=
    fun hle => h.perm (perm_calls hle).symm
  cases (move_of_step hstep).lockMove with
  | rest hcalls hlock =>
      rw [hcalls, hlock]
      exact h
  | goOn hcall hcalls hticket hholds hlock =>
      rw [hcalls, hlock]
      refine InTurn.perm ((hsplit (lt_of_call hcall).le).same ?_ ?_) (perm_put s _ _)
      · rw [hcall, hticket]
        rfl
      · rw [hcall, hholds]
        rfl
  | come hcalls hticket hholds hlock =>
      rw [hcalls, hlock]
      refine InTurn.perm ((hsplit (Nat.le_refl _)).same ?_ ?_) (perm_put s _ _)
      · rw [hticket, List.getElem?_eq_none (Nat.le_refl _)]
        rfl
      · rw [hholds, List.getElem?_eq_none (Nat.le_refl _)]
        rfl
  | lineUp hcalls hticket hbusy hlock =>
      have hbefore := hsplit (Nat.le_refl s.calls.length)
      rw [List.getElem?_eq_none (Nat.le_refl _)] at hbefore
      rw [hcalls, hlock]
      exact (InTurn.lineUp hbefore hticket hbusy).perm (perm_put s _ _)
  | take hgain hcalls hticket hholds hlock =>
      rw [hcalls, hlock]
      exact ((hsplit hgain.le).gain hgain hholds).perm (perm_put s _ _)
  | visit hgain hcalls hticket hholds hlock =>
      -- The lock is taken and passed on at once; any call that holds it serves in between.
      rw [hcalls, hlock]
      have htaken : InTurn _ (ManagerCall.closeAll (.closing []) [] :: _) :=
        (hsplit hgain.le).gain hgain rfl
      exact (htaken.release rfl hticket hholds).perm (perm_put s _ _)
  | leave hcall hbefore hcalls hticket hholds hlock =>
      have hsome := hsplit (lt_of_call hcall).le
      rw [hcall] at hsome
      rw [hcalls, hlock]
      exact (InTurn.release hsome hbefore hticket hholds).perm (perm_put s _ _)

theorem Run.inOrder {c : ManagerConfig} {log : Log} (h : Run (ofConfig c) log t) : t.InOrder :=
  h.invariant InOrder.step (inOrder_ofConfig c)

namespace InOrder

variable {lock : Semaphore} {j : Nat}

theorem alone (h : s.InOrder) (hi : s.calls[i]? = some k) (hk : k.holds = true)
    (hj : s.calls[j]? = some k') (hne : j ≠ i) : k'.holds = false := by
  have hheld := (InTurn.perm h (perm_calls (lt_of_call hi).le).symm).held
  rw [hi, Option.toList_some, List.singleton_append, List.countP_cons_of_pos hk] at hheld
  have hnone : (s.others i).countP ManagerCall.holds = 0 := by omega
  exact Bool.eq_false_iff.mpr (List.countP_eq_zero.mp hnone _ (mem_others hj hne))

theorem nobody (h : s.InOrder) (hfree : 0 < s.manager.lifecycle.available)
    (hj : s.calls[j]? = some k) : k.holds = false := by
  have hheld := h.held
  have hnone : s.calls.countP ManagerCall.holds = 0 := by omega
  exact Bool.eq_false_iff.mpr (List.countP_eq_zero.mp hnone k (List.mem_of_getElem? hj))

theorem nobody_of_gains (h : s.InOrder) (hgain : s.Gains a i lock)
    (hj : s.calls[j]? = some k) : k.holds = false := by
  apply h.nobody _ hj
  cases hgain with
  | atOnce htaken =>
      have havailable := Semaphore.available_of_taken htaken
      omega
  | inTurn hcall hticket hturn =>
      have havailable := Semaphore.available_of_promised hturn
      omega

/-- If nobody holds the lock and somebody waits for it, it is the turn of somebody. -/
theorem exists_turn (h : s.InOrder) (hnobody : forall k, k ∈ s.calls -> k.holds = false)
    (hk : k ∈ s.calls) (hwaits : k.ticket?.isSome = true) :
    exists (j : Nat) (k' : ManagerCall) (ticket : Ticket), s.calls[j]? = some k' ∧
      k'.ticket? = some ticket ∧ s.manager.lifecycle.standing ticket = .promised := by
  have hnone : s.calls.countP ManagerCall.holds = 0 := by
    rw [List.countP_eq_zero]
    intro x hx
    rw [hnobody x hx]
    exact Bool.false_ne_true
  have hheld := h.held
  have hcomplete := h.line.complete h.isOpen
  rcases Option.isSome_iff_exists.mp hwaits with ⟨own, hown⟩
  have hmine : own ∈ s.calls.filterMap ManagerCall.ticket? := List.mem_filterMap.mpr ⟨k, hk, hown⟩
  have hpromised : s.manager.lifecycle.promised ≠ [] := by
    intro hempty
    -- The lock is free, so that nobody is in line.
    have hfree : s.manager.lifecycle.free ≠ 0 := by
      unfold Semaphore.available at hheld
      rw [hempty, List.length_nil] at hheld
      omega
    have hcount := hcomplete own
    unfold Semaphore.tickets at hcount
    rw [hempty, h.greedy.resolve_left hfree] at hcount
    exact absurd hmine (List.count_eq_zero.mp hcount.symm)
  rcases List.exists_mem_of_ne_nil _ hpromised with ⟨ticket, hticket⟩
  have hout : ticket ∈ s.calls.filterMap ManagerCall.ticket? := by
    rw [← List.count_pos_iff, ← hcomplete ticket, List.count_pos_iff]
    exact List.mem_append_right _ hticket
  rcases List.mem_filterMap.mp hout with ⟨k', hk', hholder⟩
  rcases List.getElem?_of_mem hk' with ⟨j, hj⟩
  refine ⟨j, k', ticket, hj, hholder, ?_⟩
  have hkept : s.manager.lifecycle.promised.contains ticket = true := List.elem_iff.mpr hticket
  unfold Semaphore.standing
  rw [h.isOpen, hkept]
  rfl

end InOrder
end Fleet
end PoolHealth
