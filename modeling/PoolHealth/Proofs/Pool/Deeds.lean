import PoolHealth.Proofs.Pool.Onward
import Mathlib.Logic.Relation

/-!
# What calls do to their pool

Between two of its waits a call does one thing after another to its pool.  These deeds are listed
here with what they are about, and without regard to the tokens that change hands.  It depends on
the kind of a call what its deeds are about.  So whatever a deed about some matter leaves alone is
left alone by all calls that do not mind other matters.

A connection takes the date of its opening along: from the queue of idle connections to whoever
checks it out or borrows it, and back again.  Nothing changes a date, and the only new one is the
time at which the connection is opened.
-/

namespace PoolHealth

open ConnectionPool

variable {P : Instant -> Prop} {p q r : ConnectionPool} {now : Instant} {l : Lease}

/-!
## Dates
-/

def ConnectionPool.Dated (P : Instant -> Prop) (p : ConnectionPool) : Prop :=
  forall e, e ∈ p.idle -> P e.createdAt

def Lent (P : Instant -> Prop) (r : Except PoolError Lease) : Prop :=
  forall l, r = .ok l -> P l.createdAt

def Checkout.Dated (P : Instant -> Prop) : Checkout -> Prop
  | closingExpired _ _ candidate => forall e, candidate = some e -> P e.createdAt
  | validating l => P l.createdAt
  | closingInvalid _ | opening _ => True

def Acquire.Dated (P : Instant -> Prop) : Acquire -> Prop
  | queued _ _ => True
  | checkingOut _ k => k.Dated P

def Checkup.Dated (P : Instant -> Prop) : Checkup -> Prop
  | evicting _ _ | refilling _ => True
  | probing k => k.Dated P

def PoolCall.Dated (P : Instant -> Prop) : PoolCall -> Prop
  | acquire k => k.Dated P
  | tryAcquire k => k.Dated P
  | checkup k => k.Dated P
  | warmUp _ | shutDown _ => True

def PoolAnswer.Dated (P : Instant -> Prop) : PoolAnswer -> Prop
  | lent r => Lent P r
  | checked _ | switched _ => True

def Maintenance.Dated (P : Instant -> Prop) : Maintenance -> Prop
  | resting _ => True
  | checking _ k => k.Dated P

/-- What a call waits for is as `W` says, or its result is as `D` says. -/
def Progress.Holds {σ α : Type} (W : σ -> Prop) (D : α -> Prop) : Progress σ α -> Prop
  | waiting s => W s
  | done a => D a

theorem Lent.error (e : PoolError) : Lent P (.error e) := by
  rintro l ⟨⟩

theorem Lent.ok (h : P l.createdAt) : Lent P (.ok l) := by
  rintro _ ⟨⟩
  exact h

/-!
To have any date at all is no restriction.
-/

theorem ConnectionPool.dated_any (p : ConnectionPool) : p.Dated fun _ => True :=
  fun _ _ => trivial

theorem Checkout.dated_any (k : Checkout) : k.Dated fun _ => True := by
  cases k with
  | closingExpired c rest candidate =>
      exact fun _ _ => trivial
  | validating l | closingInvalid c | opening o =>
      exact trivial

theorem Acquire.dated_any (k : Acquire) : k.Dated fun _ => True := by
  cases k with
  | queued t started =>
      exact trivial
  | checkingOut started k =>
      exact k.dated_any

theorem Checkup.dated_any (k : Checkup) : k.Dated fun _ => True := by
  cases k with
  | evicting c rest | refilling o =>
      exact trivial
  | probing k =>
      exact k.dated_any

theorem PoolCall.dated_any (k : PoolCall) : k.Dated fun _ => True := by
  cases k with
  | acquire k =>
      exact k.dated_any
  | tryAcquire k =>
      exact k.dated_any
  | checkup k =>
      exact k.dated_any
  | warmUp k | shutDown k =>
      exact trivial

theorem Maintenance.dated_any (m : Maintenance) : m.Dated fun _ => True := by
  cases m with
  | resting due =>
      exact trivial
  | checking due k =>
      exact k.dated_any

namespace ConnectionPool

theorem Dated.releaseSlot (h : p.Dated P) : p.releaseSlot.Dated P := by
  rw [releaseSlot_eq]
  exact h

theorem Dated.append (h : p.Dated P) {joined : List IdleConnection}
    (hjoined : forall e, e ∈ joined -> P e.createdAt) :
    { p with idle := p.idle ++ joined }.Dated P := by
  intro e he
  rcases List.mem_append.mp he with he | he
  · exact h e he
  · exact hjoined e he

theorem Dated.pushIdle (h : p.Dated P) {e : IdleConnection} (he : P e.createdAt) :
    (p.pushIdle e).Dated P := by
  apply h.append
  simpa using he

theorem Dated.giveBack (h : p.Dated P) (hl : P l.createdAt) (now : Instant) (background : Bool) :
    (p.giveBack now l background).Dated P := by
  rw [giveBack_eq]
  apply h.append
  intro e he
  split at he
  · rw [List.mem_singleton.mp he]
    exact hl
  · cases he

theorem Dated.furnish (h : p.Dated P) (hnow : P now) (opened : List Connection) :
    (WarmUp.furnish p now opened).Dated P := by
  rw [WarmUp.furnish_eq]
  apply h.append
  intro e he
  rcases List.mem_map.mp he with ⟨c, _, rfl⟩
  exact hnow

end ConnectionPool

/-!
## Deeds
-/

inductive Matter where
  | service
  | failure
  | growth
  | account
  | line
  | lifecycle
  /-- Slots and idle connections are done away with. -/
  | ending
deriving DecidableEq

/-- One thing that is done to a pool at once.  Whatever becomes idle has a date. -/
inductive Deed (P : Instant -> Prop) (now : Instant) :
    Matter -> ConnectionPool -> ConnectionPool -> Prop where
  | take {p : ConnectionPool} {slots : Semaphore} (htaken : p.slots.tryTake = .taken slots) :
      Deed P now .service p { p with slots := slots }
  | release (p : ConnectionPool) : Deed P now .service p p.releaseSlot
  | pick {p : ConnectionPool} {expired rest : List IdleConnection} {e : IdleConnection}
      (hidle : p.idle = expired ++ e :: rest) :
      Deed P now .service p (p.afterPick expired.length rest)
  | sweep (p : ConnectionPool) : Deed P now .service p p.afterSweep
  | evict (p : ConnectionPool) : Deed P now .service p (p.takeExpired now).1
  | reserve (p : ConnectionPool) : Deed P now .service p p.addPending
  | vacate (p : ConnectionPool) : Deed P now .service p p.dropPending
  | lend (p : ConnectionPool) : Deed P now .service p p.addActive
  | retire (p : ConnectionPool) : Deed P now .service p (p.dropActive.recordClosures 1)
  | store (p : ConnectionPool) {e : IdleConnection} (hdated : P e.createdAt) :
      Deed P now .service p (p.pushIdle e)
  | giveBack (p : ConnectionPool) {l : Lease} (hdated : P l.createdAt) (background : Bool) :
      Deed P now .service p (p.giveBack now l background)
  | verdict (p : ConnectionPool) (healthy : Bool) :
      Deed P now .service p (Checkup.report p now healthy)
  | error (p : ConnectionPool) : Deed P now .failure p (p.recordError now)
  | open (p : ConnectionPool) : Deed P now .growth p p.recordCreation
  | hit (p : ConnectionPool) : Deed P now .account p p.recordHit
  | wait (p : ConnectionPool) (d : Duration) : Deed P now .account p (p.recordWait d)
  | exhaust (p : ConnectionPool) : Deed P now .account p p.recordExhaustion
  | join (p : ConnectionPool) :
      Deed P now .line p { p.addWaiter with slots := p.slots.wait }
  | collect (p : ConnectionPool) (t : Ticket) :
      Deed P now .line p { p with slots := p.slots.collect t }
  | leave (p : ConnectionPool) (t : Ticket) : Deed P now .line p (p.leaveSlotQueue t)
  | unline (p : ConnectionPool) : Deed P now .line p p.dropWaiter
  | lock (p : ConnectionPool) (lock : Semaphore) :
      Deed P now .lifecycle p { p with lifecycle := lock }
  | unlock (p : ConnectionPool) : Deed P now .lifecycle p p.releaseLock
  | leaveLock (p : ConnectionPool) (t : Ticket) : Deed P now .lifecycle p (p.leaveLockQueue t)
  | turn (p : ConnectionPool) (phase : PoolPhase) : Deed P now .lifecycle p (p.setPhase phase)
  | furnish (p : ConnectionPool) (hnow : P now) (opened : List Connection) :
      Deed P now .lifecycle p (WarmUp.furnish p now opened)
  | tell (p : ConnectionPool) :
      Deed P now .lifecycle p (emit { p with maintained := false } .maintenanceStopping)
  | closeSlots (p : ConnectionPool) : Deed P now .ending p p.closeSlots
  | drain (p : ConnectionPool) : Deed P now .ending p p.takeAllIdle.1

theorem Deed.dated {m : Matter} (h : Deed P now m p q) (hp : p.Dated P) : q.Dated P := by
  cases h with
  | release =>
      exact hp.releaseSlot
  | pick hidle =>
      unfold ConnectionPool.Dated at hp
      rw [hidle, List.forall_mem_append, List.forall_mem_cons] at hp
      exact hp.2.2
  | evict =>
      rw [takeExpired_eq]
      intro e he
      exact hp e (List.mem_filter.mp he).1
  | store _ hdated =>
      exact hp.pushIdle hdated
  | giveBack _ hdated background =>
      exact hp.giveBack hdated now background
  | leave t =>
      rw [leaveSlotQueue_eq]
      exact hp
  | unlock =>
      rw [releaseLock_eq]
      exact hp
  | leaveLock t =>
      rw [leaveLockQueue_eq]
      exact hp
  | furnish _ hnow opened =>
      exact hp.furnish hnow opened
  | sweep | drain =>
      intro e he
      cases he
  | _ =>
      exact hp

/-- Deeds one after another, all of them about some of the matters. -/
def Deeds (P : Instant -> Prop) (now : Instant) (matters : List Matter) :
    ConnectionPool -> ConnectionPool -> Prop :=
  Relation.ReflTransGen fun p q => exists m, m ∈ matters ∧ Deed P now m p q

namespace Deeds

variable {m : Matter} {matters others : List Matter}

theorem refl (p : ConnectionPool) : Deeds P now matters p p := Relation.ReflTransGen.refl

theorem one (hm : m ∈ matters) (h : Deed P now m p q) : Deeds P now matters p q :=
  Relation.ReflTransGen.single ⟨m, hm, h⟩

theorem and (h : Deeds P now matters p q) (hm : m ∈ matters) (h' : Deed P now m q r) :
    Deeds P now matters p r := Relation.ReflTransGen.tail h ⟨m, hm, h'⟩

theorem trans (h : Deeds P now matters p q) (h' : Deeds P now matters q r) :
    Deeds P now matters p r := Relation.ReflTransGen.trans h h'

theorem mono (h : Deeds P now matters p q) (hsub : matters ⊆ others) :
    Deeds P now others p q := by
  refine Relation.ReflTransGen.mono ?_ p q h
  rintro a b ⟨m, hm, hdeed⟩
  exact ⟨m, hsub hm, hdeed⟩

/-- What every single deed keeps is kept by all of them together. -/
theorem invariant {I : ConnectionPool -> Prop}
    (hkeep : forall {p q : ConnectionPool} {m : Matter}, m ∈ matters -> Deed P now m p q ->
      I p -> I q) (h : Deeds P now matters p q) (hp : I p) : I q := by
  induction h with
  | refl =>
      exact hp
  | tail _ hlast ih =>
      rcases hlast with ⟨m, hm, hdeed⟩
      exact hkeep hm hdeed ih

theorem dated (h : Deeds P now matters p q) (hp : p.Dated P) : q.Dated P :=
  h.invariant (fun _ hdeed => hdeed.dated) hp

end Deeds

/-- A part of a call does deeds about some of the matters, and what it comes to is as `D` says. -/
structure Does {τ : Type} (P : Instant -> Prop) (now : Instant) (matters : List Matter)
    (D : τ -> Prop) (p : ConnectionPool) (after : ConnectionPool × τ) : Prop where
  deeds : Deeds P now matters p after.1
  dated : D after.2

namespace Does

variable {τ : Type} {matters others : List Matter} {D : τ -> Prop}
  {after : ConnectionPool × τ}

theorem mono (h : Does P now matters D p after) (hsub : matters ⊆ others) :
    Does P now others D p after := ⟨h.deeds.mono hsub, h.dated⟩

theorem behind (h : Deeds P now matters p q) (h' : Does P now matters D q after) :
    Does P now matters D p after := ⟨h.trans h'.deeds, h'.dated⟩

end Does

namespace Matter

/-- What somebody minds who neither opens a connection nor stands in line for one. -/
def plain : List Matter := [service, failure]

def serving : List Matter := [service, failure, growth]

/-- What somebody minds who checks a connection out for that purpose. -/
def checkingOut : CheckoutPurpose -> List Matter
  | .caller => [service, failure, growth, account]
  | .healthCheck => serving

def acquiring : List Matter := [service, failure, growth, account, line]

def leaving : List Matter := [service, failure, line]

def settingUp : List Matter := [failure, lifecycle]

def shuttingDown : List Matter := [lifecycle, ending]

def of : PoolRequest -> List Matter
  | .acquire => acquiring
  | .tryAcquire => checkingOut .caller
  | .checkup => serving
  | .warmUp => settingUp
  | .shutDown => shuttingDown

def ofCancel : PoolRequest -> List Matter
  | .acquire => leaving
  | .tryAcquire => plain
  | .checkup => serving
  | .warmUp => settingUp
  | .shutDown => shuttingDown

theorem plain_subset : plain ⊆ serving := by
  decide

theorem serving_subset (purpose : CheckoutPurpose) : serving ⊆ checkingOut purpose := by
  cases purpose with
  | caller | healthCheck =>
      decide

end Matter

end PoolHealth
