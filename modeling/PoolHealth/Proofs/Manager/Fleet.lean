import PoolHealth.Manager.Call
import PoolHealth.Proofs.Pool.Seclusion
import PoolHealth.Proofs.Trace

/-!
# A fleet of pools

Calls of a manager meet its pools.  A call waits for the lifecycle lock, for the factory, or
for pools that it has asked for something, and what happens next is an action of one of them.
As with a single pool, any action may follow any other: a factory and a pool may answer
whatever they like and as late as they like.

Whatever the factory was asked for has a site, whether or not a pool ever stands there.  A
pool may be a connection pool, with everything that happens inside, or a pool of another kind,
of which nothing is known but its answers.  As long as the call that brings it up is not over,
nobody else knows a pool, and all that happens inside is its own work.
-/

namespace PoolHealth

inductive ManagerRequest where
  | bringUp
  | closeAll
  | checkAll
deriving DecidableEq

inductive Errand (α : Type) where
  | due
  | running
  /-- The answer is there, or there is none because the pool broke down. -/
  | ended (answer : Option α)
deriving DecidableEq

namespace Errand

def isOver {α : Type} : Errand α -> Bool
  | ended _ => true
  | due | running => false

end Errand

inductive ManagerCall where
  | bringUp (k : BringUp)
  | broughtUp (r : Except ManagerError Unit)
  | closeAll (k : CloseAll) (errands : List (Errand (Except PoolError Unit)))
  | allClosed
  | checkAll (k : CheckAll) (errands : List (Errand Bool))
  | allChecked (k : CheckAll) (outcomes : List (Option Bool)) (verdicts : List (String × Bool))
deriving DecidableEq

namespace ManagerCall

def ofCloseAll (k : CloseAll) : ManagerCall :=
  match k with
  | .queued _ => closeAll k []
  | .closing pools => closeAll k (pools.map fun _ => .due)

def ofCheckAll (k : CheckAll) : ManagerCall := checkAll k (k.pools.map fun _ => .due)

end ManagerCall

/-- What a site was ordered for, and what its builder and the manager had to do with it. -/
structure Card where
  builder : Nat
  definition : PoolDefinition
  /-- What the factory has answered. -/
  made : Option (Except PoolError Unit) := none
  /-- What calls of the manager have asked of the pool. -/
  requests : List PoolRequest := []
  /-- What the pool has answered to the call that brings it up. -/
  told : List (Except PoolError Unit) := []
deriving DecidableEq

/-- A connection pool with its surroundings, and what has happened there. -/
structure Inside where
  traffic : Traffic
  log : Traffic.Log := []

namespace Inside

def ofConfig (c : PoolConfig) : Inside := { traffic := .ofConfig c }

def act (x : Inside) (a : Action) : Option Inside :=
  (x.traffic.step a).map fun t => { traffic := t, log := x.log ++ [(x.traffic, a)] }

/-- A new call is always possible. -/
def ask (x : Inside) (r : PoolRequest) : Inside := (x.act (.call r)).getD x

def answers (x : Inside) : List (Except PoolError Unit) :=
  x.log.filterMap fun e => e.1.switched? e.2

end Inside

structure Site where
  card : Card
  inside : Option Inside := none

namespace Site

def ask (r : PoolRequest) (x : Site) : Site where
  card := { x.card with requests := x.card.requests ++ [r] }
  inside := x.inside.map fun i => i.ask r

/-- The factory answers the call that has ordered the site, unless it has done so already. -/
def answer (i : Nat) (r : Except PoolError Unit) (x : Site) : Site :=
  if x.card.builder = i ∧ x.card.made = none then { x with card := { x.card with made := some r } }
  else x

def tell (r : Except PoolError Unit) (x : Site) : Site :=
  { x with card := { x.card with told := x.card.told ++ [r] } }

/-- Whether the pool can answer that.  A connection pool answers what comes of the request. -/
def mayTell (r : Except PoolError Unit) (x : Site) : Bool :=
  match x.inside with
  | none => true
  | some i => i.answers = x.card.told ++ [r]

end Site

/-- A manager with all its calls and sites. -/
structure Fleet where
  manager : PoolManager
  calls : List ManagerCall := []
  sites : List Site := []

inductive FleetAction where
  | call (r : ManagerRequest)
  | reply (i : Nat) (r : ManagerReply)
  /-- The factory sets up a connection pool on a site that was ordered. -/
  | build (p : PoolRef)
  /-- The pool in that place is asked to shut itself down, or to check itself. -/
  | send (i j : Nat)
  | closed (i j : Nat) (answer : Option (Except PoolError Unit))
  | checked (i j : Nat) (answer : Option Bool)
  | inside (p : PoolRef) (a : Action)

namespace Fleet

def ofConfig (c : ManagerConfig) : Fleet where
  manager := { config := c }

/-!
## One action
-/

def put (s : Fleet) (i : Nat) (k : ManagerCall) : Fleet :=
  { s with calls := s.calls.take i ++ k :: s.calls.drop (i + 1) }

/-- The manager has changed; those who wait for its lock look for themselves. -/
def adopt (s : Fleet) (m : PoolManager) : Fleet := { s with manager := { m with outbox := [] } }

def order (s : Fleet) (i : Nat) (d : PoolDefinition) : Fleet :=
  { s with sites := s.sites ++ [{ card := { builder := i, definition := d } }] }

def ask (s : Fleet) (p : PoolRef) (r : PoolRequest) : Fleet :=
  { s with sites := s.sites.modify p (Site.ask r) }

def answer (s : Fleet) (i : Nat) (r : Except PoolError Unit) : Fleet :=
  { s with sites := s.sites.map (Site.answer i r) }

def tell (s : Fleet) (p : PoolRef) (r : Except PoolError Unit) : Fleet :=
  { s with sites := s.sites.modify p (Site.tell r) }

/-- What a call that brings pools up does when it begins to wait. -/
def demand (s : Fleet) (i : Nat) : BringUp -> Fleet
  | .queued _ => s
  | .building d _ _ => s.order i d
  | .warming _ p _ _ => s.ask p .warmUp
  | .rollingBack p _ _ => s.ask p .shutDown

def followBringUp (s : Fleet) (i : Nat) :
    PoolManager × Progress BringUp (Except ManagerError Unit) -> Fleet
  | (m, .waiting k) => ((s.adopt m).put i (.bringUp k)).demand i k
  | (m, .done r) => (s.adopt m).put i (.broughtUp r)

def followCloseAll (s : Fleet) (i : Nat) : PoolManager × Progress CloseAll Unit -> Fleet
  | (m, .waiting k) => (s.adopt m).put i (.ofCloseAll k)
  | (m, .done _) => (s.adopt m).put i .allClosed

/-- A site that the call has ordered, and that the factory has not answered for. -/
def hasOrdered (s : Fleet) (i : Nat) (p : PoolRef) : Bool :=
  s.sites[p]?.any fun x => x.card.builder = i ∧ x.card.made = none

def mayTell (s : Fleet) (p : PoolRef) (r : Except PoolError Unit) : Bool :=
  s.sites[p]?.any fun x => x.mayTell r

def allows (s : Fleet) (i : Nat) : BringUp -> ManagerReply -> Bool
  | .queued _, .stirred => true
  | .building _ _ _, .built (.ok p) => s.hasOrdered i p
  | .building _ _ _, .built (.error _) => true
  | .warming _ p _ _, .warmedUp r => s.mayTell p r
  | .rollingBack p _ _, .closed r => s.mayTell p r
  | _, _ => false

def record (s : Fleet) (i : Nat) : BringUp -> ManagerReply -> Fleet
  | .building _ _ _, .built (.ok _) => s.answer i (.ok ())
  | .building _ _ _, .built (.error e) => s.answer i (.error e)
  | .warming _ p _ _, .warmedUp r => s.tell p r
  | .rollingBack p _ _, .closed r => s.tell p r
  | _, _ => s

def allowsClose (errands : List (Errand (Except PoolError Unit))) :
    CloseAll -> ManagerReply -> Bool
  | .queued _, .stirred => true
  | .closing _, .allClosed => errands.all Errand.isOver
  | _, _ => false

/-- Whether everybody finds the pool by its name, or found it once. -/
def isPublic (s : Fleet) (x : Site) : Bool :=
  s.calls[x.card.builder]? = some (.broughtUp (.ok ()))

def step (s : Fleet) : FleetAction -> Option Fleet
  | .call .bringUp => some (s.followBringUp s.calls.length (BringUp.start s.manager))
  | .call .closeAll => some (s.followCloseAll s.calls.length (CloseAll.start s.manager))
  | .call .checkAll => some (s.put s.calls.length (.ofCheckAll (CheckAll.start s.manager)))
  | .reply i r =>
      match s.calls[i]?, r with
      | some (.bringUp k), r =>
          if s.allows i k r then some ((s.record i k r).followBringUp i (k.step s.manager r))
          else none
      | some (.closeAll k errands), r =>
          if allowsClose errands k r then some (s.followCloseAll i (k.step s.manager r)) else none
      | some (.checkAll k errands), .allChecked outcomes =>
          if errands = outcomes.map .ended then
            some (s.put i (.allChecked k outcomes (k.verdicts outcomes)))
          else none
      | _, _ => none
  | .build p => do
      let x ← s.sites[p]?
      if x.card.made = none ∧ x.inside.isNone then
        some { s with
          sites := s.sites.set p { x with inside := some (.ofConfig x.card.definition.config) } }
      else none
  | .send i j =>
      match s.calls[i]? with
      | some (.closeAll (.closing pools) errands) =>
          match pools[j]?, errands[j]? with
          | some (_, p), some .due =>
              some ((s.put i (.closeAll (.closing pools) (errands.set j .running))).ask p .shutDown)
          | _, _ => none
      | some (.checkAll k errands) =>
          match k.pools[j]?, errands[j]? with
          | some (_, p), some .due =>
              some ((s.put i (.checkAll k (errands.set j .running))).ask p .checkup)
          | _, _ => none
      | _ => none
  | .closed i j answer =>
      match s.calls[i]? with
      | some (.closeAll k errands) =>
          if errands[j]? = some .running then
            some (s.put i (.closeAll k (errands.set j (.ended answer))))
          else none
      | _ => none
  | .checked i j answer =>
      match s.calls[i]? with
      | some (.checkAll k errands) =>
          if errands[j]? = some .running then
            some (s.put i (.checkAll k (errands.set j (.ended answer))))
          else none
      | _ => none
  | .inside p a => do
      let x ← s.sites[p]?
      let i ← x.inside
      if s.isPublic x || a.isOwn then
        let i ← i.act a
        some { s with sites := s.sites.set p { x with inside := some i } }
      else none

/-!
## Runs
-/

/-- What happened, oldest first, each with the state before it. -/
abbrev Log := List (Fleet × FleetAction)

abbrev Run : Fleet -> Log -> Fleet -> Prop := Trace Fleet.step

abbrev run : Fleet -> List FleetAction -> Option Fleet := Trace.compute Fleet.step

end Fleet
end PoolHealth
