import PoolHealth.Proofs.Manager.Fleet

/-!
# Moves of a fleet

Everything that one action can come to, as a list of moves.  A call that brings pools up gains
the lock or is told an answer, and then it goes on with the next definition or it rolls back;
these two halves of a move are described apart.
-/

namespace PoolHealth

namespace ManagerCall

def ticket? : ManagerCall -> Option Ticket
  | bringUp (.queued ticket) | closeAll (.queued ticket) _ => some ticket
  | bringUp (.building _ _ _) | bringUp (.warming _ _ _ _) | bringUp (.rollingBack _ _ _)
  | broughtUp _ | closeAll (.closing _) _ | allClosed | checkAll _ _ | allChecked _ _ _ => none

def holds : ManagerCall -> Bool
  | bringUp (.building _ _ _) | bringUp (.warming _ _ _ _) | bringUp (.rollingBack _ _ _)
  | closeAll (.closing _) _ => true
  | bringUp (.queued _) | broughtUp _ | closeAll (.queued _) _ | allClosed | checkAll _ _
  | allChecked _ _ _ => false

def isOver : ManagerCall -> Bool
  | broughtUp _ | allClosed | allChecked _ _ _ => true
  | bringUp _ | closeAll _ _ | checkAll _ _ => false

end ManagerCall

def FleetAction.call? : FleetAction -> Option Nat
  | reply i _ | send i _ | closed i _ _ | checked i _ _ => some i
  | call _ | build _ | inside _ _ => none

namespace Fleet

def taking (s : Fleet) (lock : Semaphore) : Fleet := s.adopt { s.manager with lifecycle := lock }

def releasing (s : Fleet) : Fleet := s.adopt s.manager.releaseLock

inductive Gains (s : Fleet) : FleetAction -> Nat -> Semaphore -> Prop where
  | atOnce {r : ManagerRequest} {lock : Semaphore}
      (htaken : s.manager.lifecycle.tryTake = .taken lock) :
      Gains s (.call r) s.calls.length lock
  | inTurn {i : Nat} {k : ManagerCall} {ticket : Ticket} (hcall : s.calls[i]? = some k)
      (hticket : k.ticket? = some ticket)
      (hturn : s.manager.lifecycle.standing ticket = .promised) :
      Gains s (.reply i .stirred) i (s.manager.lifecycle.collect ticket)

inductive TurnedAway (m : PoolManager) : ManagerCall -> Prop where
  | found (hphase : m.phase = .ready) : TurnedAway m (.broughtUp (.ok ()))
  | late (hphase : m.phase = .closed) : TurnedAway m (.broughtUp (.error .alreadyClosed))
  | faulty {e : ManagerError} (hphase : m.phase = .uninitialized)
      (hfault : m.config.fault? = some e) : TurnedAway m (.broughtUp (.error e))
  | done (hphase : m.phase = .closed) : TurnedAway m .allClosed

inductive Proceeds (s : Fleet) :
    FleetAction -> Nat -> Fleet -> List (String × PoolRef) -> List PoolDefinition -> Prop where
  | begun {a : FleetAction} {i : Nat} {lock : Semaphore} (hgain : s.Gains a i lock)
      (hphase : s.manager.phase = .uninitialized) (hfault : s.manager.config.fault? = none) :
      Proceeds s a i (s.taking lock) [] s.manager.config.pools
  | warmed {i : Nat} {d : PoolDefinition} {p : PoolRef} {rest : List PoolDefinition}
      {started : List (String × PoolRef)}
      (hcall : s.calls[i]? = some (.bringUp (.warming d p rest started)))
      (htell : s.mayTell p (.ok ()) = true) :
      Proceeds s (.reply i (.warmedUp (.ok ()))) i (s.tell p (.ok ()))
        (started ++ [(d.name, p)]) rest

inductive Fails (s : Fleet) :
    FleetAction -> Nat -> Fleet -> ManagerError -> List (String × PoolRef) -> Prop where
  | unbuilt {i : Nat} {d : PoolDefinition} {rest : List PoolDefinition}
      {started : List (String × PoolRef)} {e : PoolError}
      (hcall : s.calls[i]? = some (.bringUp (.building d rest started))) :
      Fails s (.reply i (.built (.error e))) i (s.answer i (.error e))
        (.poolInitialization d.name e) started
  | cold {i : Nat} {d : PoolDefinition} {p : PoolRef} {rest : List PoolDefinition}
      {started : List (String × PoolRef)} {e : PoolError}
      (hcall : s.calls[i]? = some (.bringUp (.warming d p rest started)))
      (htell : s.mayTell p (.error e) = true) :
      Fails s (.reply i (.warmedUp (.error e))) i (s.tell p (.error e))
        (.poolInitialization d.name e) started
  | undone {i : Nat} {p : PoolRef} {rest : List (String × PoolRef)} {e : ManagerError}
      {r : Except PoolError Unit}
      (hcall : s.calls[i]? = some (.bringUp (.rollingBack p rest e)))
      (htell : s.mayTell p r = true) :
      Fails s (.reply i (.closed r)) i (s.tell p r) e rest

inductive Move (s : Fleet) : FleetAction -> Fleet -> Prop where
  | lineUp {r : ManagerRequest} {k : ManagerCall}
      (hticket : k.ticket? = some s.manager.lifecycle.nextTicket)
      (hbusy : forall lock, s.manager.lifecycle.tryTake ≠ .taken lock) :
      Move s (.call r)
        ((s.adopt { s.manager with lifecycle := s.manager.lifecycle.wait }).put s.calls.length k)
  | linger {i : Nat} {k k' : ManagerCall} {ticket : Ticket} (hcall : s.calls[i]? = some k)
      (hticket : k.ticket? = some ticket) (hsame : k'.ticket? = some ticket) :
      Move s (.reply i .stirred) ((s.adopt s.manager).put i k')
  | turnedAway {a : FleetAction} {i : Nat} {lock : Semaphore} {k : ManagerCall}
      (hgain : s.Gains a i lock) (haway : TurnedAway s.manager k) :
      Move s a ((s.taking lock).releasing.put i k)
  | proceeds {a : FleetAction} {i : Nat} {u : Fleet} {started : List (String × PoolRef)}
      {rest : List PoolDefinition} (h : s.Proceeds a i u started rest) :
      Move s a (u.followBringUp i (BringUp.goOn u.manager started rest))
  | built {i : Nat} {d : PoolDefinition} {p : PoolRef} {rest : List PoolDefinition}
      {started : List (String × PoolRef)}
      (hcall : s.calls[i]? = some (.bringUp (.building d rest started)))
      (horder : s.hasOrdered i p = true) :
      Move s (.reply i (.built (.ok p)))
        ((s.answer i (.ok ())).followBringUp i
          (s.manager, .waiting (.warming d p rest started)))
  | fails {a : FleetAction} {i : Nat} {u : Fleet} {e : ManagerError}
      {started : List (String × PoolRef)} (h : s.Fails a i u e started) :
      Move s a (u.followBringUp i (BringUp.rollBack u.manager e started))
  | closing {a : FleetAction} {i : Nat} {lock : Semaphore} (hgain : s.Gains a i lock)
      (hphase : s.manager.phase ≠ .closed) :
      Move s a
        ((s.adopt { s.manager with lifecycle := lock, pools := [] }).put i
          (.ofCloseAll (.closing s.manager.pools)))
  | closed {i : Nat} {pools : List (String × PoolRef)}
      {errands : List (Errand (Except PoolError Unit))}
      (hcall : s.calls[i]? = some (.closeAll (.closing pools) errands))
      (hover : errands.all Errand.isOver = true) :
      Move s (.reply i .allClosed)
        ((s.adopt (PoolManager.releaseLock
          { s.manager with phase := .closed, initialized := false })).put i .allClosed)
  | checking :
      Move s (.call .checkAll) (s.put s.calls.length (.ofCheckAll (CheckAll.start s.manager)))
  | checked {i : Nat} {k : CheckAll} {outcomes : List (Option Bool)}
      (hcall : s.calls[i]? = some (.checkAll k (outcomes.map .ended))) :
      Move s (.reply i (.allChecked outcomes))
        (s.put i (.allChecked k outcomes (k.verdicts outcomes)))
  | sendClose {i j : Nat} {pools : List (String × PoolRef)}
      {errands : List (Errand (Except PoolError Unit))} {name : String} {p : PoolRef}
      (hcall : s.calls[i]? = some (.closeAll (.closing pools) errands))
      (hpool : pools[j]? = some (name, p)) (hdue : errands[j]? = some .due) :
      Move s (.send i j)
        ((s.put i (.closeAll (.closing pools) (errands.set j .running))).ask p .shutDown)
  | sendCheck {i j : Nat} {k : CheckAll} {errands : List (Errand Bool)} {name : String}
      {p : PoolRef} (hcall : s.calls[i]? = some (.checkAll k errands))
      (hpool : k.pools[j]? = some (name, p)) (hdue : errands[j]? = some .due) :
      Move s (.send i j) ((s.put i (.checkAll k (errands.set j .running))).ask p .checkup)
  | closeOver {i j : Nat} {k : CloseAll} {errands : List (Errand (Except PoolError Unit))}
      {answer : Option (Except PoolError Unit)} (hcall : s.calls[i]? = some (.closeAll k errands))
      (hrunning : errands[j]? = some .running) :
      Move s (.closed i j answer) (s.put i (.closeAll k (errands.set j (.ended answer))))
  | checkOver {i j : Nat} {k : CheckAll} {errands : List (Errand Bool)} {answer : Option Bool}
      (hcall : s.calls[i]? = some (.checkAll k errands))
      (hrunning : errands[j]? = some .running) :
      Move s (.checked i j answer) (s.put i (.checkAll k (errands.set j (.ended answer))))
  | build {p : PoolRef} {x : Site} (hx : s.sites[p]? = some x) (hmade : x.card.made = none)
      (hempty : x.inside = none) :
      Move s (.build p)
        { s with
          sites := s.sites.set p { x with inside := some (.ofConfig x.card.definition.config) } }
  | inside {p : PoolRef} {a : Action} {x : Site} {i i' : Inside} (hx : s.sites[p]? = some x)
      (hi : x.inside = some i) (hallowed : (s.isPublic x || a.isOwn) = true)
      (hact : i.act a = some i') :
      Move s (.inside p a) { s with sites := s.sites.set p { x with inside := some i' } }

variable {s t : Fleet} {a : FleetAction}

/-!
## Whoever holds the lock
-/

theorem move_of_enterBringUp {i : Nat} {lock : Semaphore} (hgain : s.Gains a i lock) :
    Move s a (s.followBringUp i (BringUp.enter { s.manager with lifecycle := lock })) := by
  unfold BringUp.enter
  split
  · rename_i hphase
    exact .turnedAway hgain (.found hphase)
  · rename_i hphase
    exact .turnedAway hgain (.late hphase)
  · rename_i hphase
    split
    · rename_i e hfault
      exact .turnedAway hgain (.faulty hphase hfault)
    · rename_i hfault
      have hproceeds := Move.proceeds (.begun hgain hphase hfault)
      cases hpools : s.manager.config.pools with
      | nil =>
          rw [hpools] at hproceeds
          exact hproceeds
      | cons d rest =>
          rw [hpools] at hproceeds
          exact hproceeds

theorem move_of_enterCloseAll {i : Nat} {lock : Semaphore} (hgain : s.Gains a i lock) :
    Move s a (s.followCloseAll i (CloseAll.enter { s.manager with lifecycle := lock })) := by
  unfold CloseAll.enter
  split
  · rename_i hphase
    exact .turnedAway hgain (.done hphase)
  · rename_i hphase
    exact .closing hgain hphase

theorem move_of_callBringUp :
    Move s (.call .bringUp) (s.followBringUp s.calls.length (BringUp.start s.manager)) := by
  unfold BringUp.start
  split
  · rename_i lock htaken
    exact move_of_enterBringUp (.atOnce htaken)
  all_goals
    rename_i htaken
    refine Move.lineUp rfl ?_
    intro lock htook
    rw [htaken] at htook
    cases htook

theorem move_of_callCloseAll :
    Move s (.call .closeAll) (s.followCloseAll s.calls.length (CloseAll.start s.manager)) := by
  unfold CloseAll.start
  split
  · rename_i lock htaken
    exact move_of_enterCloseAll (.atOnce htaken)
  all_goals
    rename_i htaken
    refine Move.lineUp rfl ?_
    intro lock htook
    rw [htaken] at htook
    cases htook

/-!
## Replies
-/

theorem move_of_replyBringUp {i : Nat} {k : BringUp} {r : ManagerReply}
    (hcall : s.calls[i]? = some (.bringUp k)) (hallows : s.allows i k r = true) :
    Move s (.reply i r) ((s.record i k r).followBringUp i (k.step s.manager r)) := by
  cases k with
  | queued ticket =>
      cases r with
      | stirred =>
          simp only [BringUp.step]
          split
          · rename_i hturn
            exact move_of_enterBringUp (.inTurn hcall rfl hturn)
          · exact .linger hcall rfl rfl
      | built r | warmedUp r | closed r | allClosed | allChecked vs =>
          cases hallows
  | building d rest started =>
      cases r with
      | built r =>
          cases r with
          | ok p =>
              exact .built hcall hallows
          | error e =>
              exact .fails (.unbuilt hcall)
      | stirred | warmedUp r | closed r | allClosed | allChecked vs =>
          cases hallows
  | warming d p rest started =>
      cases r with
      | warmedUp r =>
          cases r with
          | ok _ =>
              exact .proceeds (.warmed hcall hallows)
          | error e =>
              exact .fails (.cold hcall hallows)
      | stirred | built r | closed r | allClosed | allChecked vs =>
          cases hallows
  | rollingBack p rest e =>
      cases r with
      | closed r =>
          exact .fails (.undone hcall hallows)
      | stirred | built r | warmedUp r | allClosed | allChecked vs =>
          cases hallows

theorem move_of_replyCloseAll {i : Nat} {k : CloseAll}
    {errands : List (Errand (Except PoolError Unit))} {r : ManagerReply}
    (hcall : s.calls[i]? = some (.closeAll k errands)) (hallows : allowsClose errands k r = true) :
    Move s (.reply i r) (s.followCloseAll i (k.step s.manager r)) := by
  cases k with
  | queued ticket =>
      cases r with
      | stirred =>
          simp only [CloseAll.step]
          split
          · rename_i hturn
            exact move_of_enterCloseAll (.inTurn hcall rfl hturn)
          · exact .linger hcall rfl rfl
      | built r | warmedUp r | closed r | allClosed | allChecked vs =>
          cases hallows
  | closing pools =>
      cases r with
      | allClosed =>
          exact .closed hcall hallows
      | stirred | built r | warmedUp r | closed r | allChecked vs =>
          cases hallows

theorem move_of_reply {i : Nat} {r : ManagerReply} (h : s.step (.reply i r) = some t) :
    Move s (.reply i r) t := by
  simp only [step] at h
  split at h
  · rename_i k r hcall
    split at h
    · rename_i hallows
      cases h
      exact move_of_replyBringUp hcall hallows
    · cases h
  · rename_i k errands r hcall
    split at h
    · rename_i hallows
      cases h
      exact move_of_replyCloseAll hcall hallows
    · cases h
  · rename_i k errands outcomes hcall
    split at h
    · rename_i hover
      subst hover
      cases h
      exact .checked hcall
    · cases h
  · cases h

/-!
## Errands, and what happens at the sites
-/

theorem move_of_send {i j : Nat} (h : s.step (.send i j) = some t) : Move s (.send i j) t := by
  simp only [step] at h
  split at h
  · rename_i pools errands hcall
    split at h
    · rename_i name p hpool hdue
      cases h
      exact .sendClose hcall hpool hdue
    · cases h
  · rename_i k errands hcall
    split at h
    · rename_i name p hpool hdue
      cases h
      exact .sendCheck hcall hpool hdue
    · cases h
  · cases h

theorem move_of_closed {i j : Nat} {answer : Option (Except PoolError Unit)}
    (h : s.step (.closed i j answer) = some t) : Move s (.closed i j answer) t := by
  simp only [step] at h
  split at h
  · rename_i k errands hcall
    split at h
    · rename_i hrunning
      cases h
      exact .closeOver hcall hrunning
    · cases h
  · cases h

theorem move_of_checked {i j : Nat} {answer : Option Bool}
    (h : s.step (.checked i j answer) = some t) : Move s (.checked i j answer) t := by
  simp only [step] at h
  split at h
  · rename_i k errands hcall
    split at h
    · rename_i hrunning
      cases h
      exact .checkOver hcall hrunning
    · cases h
  · cases h

theorem move_of_build {p : PoolRef} (h : s.step (.build p) = some t) : Move s (.build p) t := by
  rcases Option.bind_eq_some_iff.mp h with ⟨x, hx, hrest⟩
  split at hrest
  · rename_i hnew
    cases hrest
    exact .build hx hnew.1 (Option.isNone_iff_eq_none.mp hnew.2)
  · cases hrest

theorem move_of_inside {p : PoolRef} {b : Action} (h : s.step (.inside p b) = some t) :
    Move s (.inside p b) t := by
  rcases Option.bind_eq_some_iff.mp h with ⟨x, hx, hrest⟩
  rcases Option.bind_eq_some_iff.mp hrest with ⟨i, hi, hlast⟩
  split at hlast
  · rename_i hallowed
    rcases Option.bind_eq_some_iff.mp hlast with ⟨i', hact, hreturn⟩
    cases hreturn
    exact .inside hx hi hallowed hact
  · cases hlast

/-- Every action is one of the moves. -/
theorem move_of_step (h : s.step a = some t) : Move s a t := by
  cases a with
  | call r =>
      cases r with
      | bringUp =>
          cases h
          exact move_of_callBringUp
      | closeAll =>
          cases h
          exact move_of_callCloseAll
      | checkAll =>
          cases h
          exact .checking
  | reply i r =>
      exact move_of_reply h
  | build p =>
      exact move_of_build h
  | send i j =>
      exact move_of_send h
  | closed i j answer =>
      exact move_of_closed h
  | checked i j answer =>
      exact move_of_checked h
  | inside p b =>
      exact move_of_inside h

end Fleet
end PoolHealth
