import PoolHealth.Proofs.Pool.Traffic

/-!
# Calls that run alone

As long as calls do not overlap, nothing but the backend and the clock decides how a wait
ends.  A call is then driven from one wait to the next until it is over, and there is only
one way for that.  Nobody gives a slot back meanwhile, so that whoever waits for one waits
until the limit.

A call that another call goes through on its way is driven in the same way, whichever call
that is.
-/

namespace PoolHealth

inductive BackendRequest where
  | create
  | validate (c : Connection)
  | close (c : Connection)
deriving DecidableEq

structure Journal where
  now : Instant := ⟨0⟩
  requests : List (Instant × BackendRequest) := []
deriving DecidableEq

namespace Journal

def pass (j : Journal) (d : Duration) : Journal := { j with now := ⟨j.now.nanos + d.nanos⟩ }

def note (j : Journal) (r : BackendRequest) : Journal :=
  { j with requests := j.requests ++ [(j.now, r)] }

def noteAll (j : Journal) (ds : List Connection) : Journal :=
  ds.foldl (fun j d => j.note (.close d)) j

end Journal

/-- A backend and a clock.  The backend may take everything into account that it was ever
asked for: how long the next request takes, and what comes of it. -/
structure Surroundings where
  creation : Journal -> Duration × Except BackendError Connection
  validation : Journal -> Connection -> Duration × Bool
  closure : Journal -> Connection -> Duration × Except BackendError Unit
  /-- How long it takes by the clock until that much time is seen to have passed.  It is
  just that time if the clock is exact. -/
  alarm : Duration -> Duration

namespace Surroundings

def limited {α : Type} (env : Surroundings) (limit : Duration) (j : Journal) (r : BackendRequest)
    (work : Duration × α) : Journal × Option α :=
  if work.1 ≤ env.alarm limit then ((j.note r).pass work.1, some work.2)
  else ((j.note r).pass (env.alarm limit), none)

/-- How a wait ends if nobody else has to do with the pool. -/
def ending? (env : Surroundings) (c : PoolConfig) (j : Journal) : Await -> Option (Journal × Reply)
  | .create =>
      match env.limited c.connectionTimeout j .create (env.creation j) with
      | (j, some r) => some (j, .created r)
      | (j, none) => some (j, .timedOut)
  | .validate d =>
      match env.limited c.validationTimeout j (.validate d) (env.validation j d) with
      | (j, some ok) => some (j, .validated ok)
      | (j, none) => some (j, .timedOut)
  | .close d =>
      match env.limited c.validationTimeout j (.close d) (env.closure j d) with
      | (j, some r) => some (j, .closed r)
      | (j, none) => some (j, .timedOut)
  | .pause d => some (j.pass (env.alarm d), .stirred)
  -- Nobody is there who could give a slot back.
  | .slot _ => some (j.pass (env.alarm c.connectionTimeout), .timedOut)
  -- Nobody holds the lifecycle lock, and nobody ends maintenance.
  | .lifecycle _ | .maintenanceEnd => none

def close (env : Surroundings) (c : PoolConfig) (j : Journal) (d : Connection) : Journal :=
  (env.limited c.validationTimeout j (.close d) (env.closure j d)).1

def closeAll (env : Surroundings) (c : PoolConfig) (j : Journal) (ds : List Connection) : Journal :=
  ds.foldl (env.close c) j

theorem exists_ending_close (env : Surroundings) (c : PoolConfig) (j : Journal) (d : Connection) :
    exists r,
      env.ending? c j (.close d) = some (env.close c j d, r) ∧ r.fits (.close d) = true := by
  cases hends : env.limited c.validationTimeout j (.close d) (env.closure j d) with
  | mk k outcome =>
      cases outcome with
      | none =>
          exact ⟨.timedOut, by simp [ending?, close, hends], rfl⟩
      | some result =>
          exact ⟨.closed result, by simp [ending?, close, hends], rfl⟩

end Surroundings

/-- A kind of call: what it waits for and how it goes on. -/
structure Machine (σ α : Type) where
  await : PoolConfig -> σ -> Await
  step : ConnectionPool -> Instant -> σ -> Reply -> ConnectionPool × Progress σ α

namespace Machine

variable {σ τ α β : Type} {m : Machine σ α} {m' : Machine τ β} {env : Surroundings}
variable {j k l : Journal} {x : ConnectionPool × Progress σ α} {y z : ConnectionPool × α}

inductive Drives (m : Machine σ α) (env : Surroundings) :
    Journal -> ConnectionPool × Progress σ α -> Journal -> ConnectionPool × α -> Prop where
  | done (j : Journal) (p : ConnectionPool) (a : α) : Drives m env j (p, .done a) j (p, a)
  | wait {j k l : Journal} {p : ConnectionPool} {s : σ} {r : Reply} {y : ConnectionPool × α}
      (hends : env.ending? p.config j (m.await p.config s) = some (k, r))
      (hrest : Drives m env k (m.step p k.now s r) l y) : Drives m env j (p, .waiting s) l y

theorem Drives.of_done {p : ConnectionPool} {a : α} (h : x = (p, .done a)) :
    m.Drives env j x j (p, a) := by
  rw [h]
  exact .done j p a

/-- There is one end at most to which a call can be driven. -/
theorem Drives.unique (h : m.Drives env j x k y) (h' : m.Drives env j x l z) : l = k ∧ z = y := by
  induction h with
  | done j p a =>
      cases h'
      exact ⟨rfl, rfl⟩
  | wait hends _ ih =>
      cases h' with
      | wait hends' hrest' =>
          rw [hends] at hends'
          cases hends'
          exact ih hrest'

/-- Progress of a call on whose way another one is: it waits as long as that one does, and
goes on from there. -/
def resume (place : σ -> τ)
    (goOn : ConnectionPool -> Instant -> α -> ConnectionPool × Progress τ β) (now : Instant) :
    ConnectionPool × Progress σ α -> ConnectionPool × Progress τ β
  | (p, .waiting s) => (p, .waiting (place s))
  | (p, .done a) => goOn p now a

/-- The first kind of call is on the way of the second one. -/
structure Within (m : Machine σ α) (m' : Machine τ β) (place : σ -> τ)
    (goOn : ConnectionPool -> Instant -> α -> ConnectionPool × Progress τ β) : Prop where
  await : forall c s, m'.await c (place s) = m.await c s
  step : forall p now s r, m'.step p now (place s) r = resume place goOn now (m.step p now s r)

theorem Drives.within {place : σ -> τ}
    {goOn : ConnectionPool -> Instant -> α -> ConnectionPool × Progress τ β}
    {w : ConnectionPool × β} (hplace : m.Within m' place goOn) (h : m.Drives env j x k y)
    (hrest : m'.Drives env k (goOn y.1 k.now y.2) l w) :
    m'.Drives env j (resume place goOn j.now x) l w := by
  induction h with
  | done j p a =>
      exact hrest
  | @wait j k l p s r y hends _ ih =>
      have hends' : env.ending? p.config j (m'.await p.config (place s)) = some (k, r) := by
        rw [hplace.await]
        exact hends
      have hstep := ih hrest
      rw [← hplace.step] at hstep
      exact Drives.wait hends' hstep

theorem Drives.invariant {I : ConnectionPool -> Prop}
    (hstep : forall p now s r, I p -> I (m.step p now s r).1) (h : m.Drives env j x k y)
    (hx : I x.1) : I y.1 := by
  induction h with
  | done j p a =>
      exact hx
  | @wait j k l p s r y _ _ ih =>
      exact ih (hstep p k.now s r hx)

/-!
## Connections that are closed one after another
-/

def closeThen (place : Connection -> List Connection -> σ)
    (goOn : ConnectionPool -> Instant -> ConnectionPool × Progress σ α) (p : ConnectionPool)
    (now : Instant) : List Connection -> ConnectionPool × Progress σ α
  | [] => goOn p now
  | d :: rest => (p, .waiting (place d rest))

structure Closes (m : Machine σ α) (place : Connection -> List Connection -> σ)
    (goOn : ConnectionPool -> Instant -> ConnectionPool × Progress σ α) : Prop where
  await : forall c d rest, m.await c (place d rest) = .close d
  step : forall p now d rest r, r.fits (.close d) = true ->
    m.step p now (place d rest) r = closeThen place goOn p now rest

theorem Drives.closeThen {place : Connection -> List Connection -> σ}
    {goOn : ConnectionPool -> Instant -> ConnectionPool × Progress σ α} {p : ConnectionPool}
    {ds : List Connection} (hcloses : m.Closes place goOn)
    (h : m.Drives env (env.closeAll p.config j ds) (goOn p (env.closeAll p.config j ds).now) l y) :
    m.Drives env j (Machine.closeThen place goOn p j.now ds) l y := by
  -- The journal is the only thing that changes from one connection to the next.
  induction ds generalizing j with
  | nil =>
      exact h
  | cons d rest ih =>
      rcases env.exists_ending_close p.config j d with ⟨r, hends, hfits⟩
      rw [← hcloses.await p.config d rest] at hends
      apply Drives.wait hends
      rw [hcloses.step _ _ _ _ _ hfits]
      exact ih h

end Machine
end PoolHealth
