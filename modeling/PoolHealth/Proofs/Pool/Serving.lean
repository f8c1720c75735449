import PoolHealth.Proofs.Pool.CallDeeds

/-!
# What serving callers leaves alone

Whoever checks a connection out, gives one back or checks the pool has nothing to do with
the phase, with the lifecycle lock or with maintenance.  It takes slots and gives them back,
and a ticket may be called because of that.  But nobody gets a ticket and nobody loses one.
-/

namespace PoolHealth

namespace Semaphore

/-- The tickets that are out: those that wait, and those that a permit is kept for. -/
def tickets (s : Semaphore) : List Ticket := s.queue ++ s.promised

/-- The same tickets are out; some of those that waited may have been called. -/
structure SameLine (s t : Semaphore) : Prop where
  closed : t.closed = s.closed
  nextTicket : t.nextTicket = s.nextTicket
  tickets : t.tickets.Perm s.tickets
  queue : s.queue = [] -> t.queue = []

variable {s t u : Semaphore}

namespace SameLine

theorem refl (s : Semaphore) : SameLine s s where
  closed := rfl
  nextTicket := rfl
  tickets := List.Perm.refl _
  queue := id

theorem trans (h : SameLine s t) (h' : SameLine t u) : SameLine s u where
  closed := h'.closed.trans h.closed
  nextTicket := h'.nextTicket.trans h.nextTicket
  tickets := h'.tickets.trans h.tickets
  queue := fun hs => h'.queue (h.queue hs)

theorem release (s : Semaphore) : SameLine s s.release := by
  unfold Semaphore.release
  split
  · exact ⟨rfl, rfl, List.Perm.refl _, id⟩
  · rename_i t rest hqueue
    refine ⟨rfl, rfl, ?_, ?_⟩
    · simp only [Semaphore.tickets, hqueue]
      rw [← List.append_assoc]
      exact List.perm_append_comm
    · intro hnone
      rw [hqueue] at hnone
      cases hnone

theorem of_taken (h : s.tryTake = .taken t) : SameLine s t := by
  unfold tryTake at h
  split at h
  · cases h
  · split at h
    · cases h
    · cases h
      exact ⟨rfl, rfl, List.Perm.refl _, id⟩

end SameLine

theorem open_of_noneFree (h : s.tryTake = .noneFree) : s.closed = false := by
  unfold tryTake at h
  split at h
  · cases h
  · rename_i hopen
    exact Bool.eq_false_iff.mpr hopen

end Semaphore

open ConnectionPool

/-- The second pool comes of the first one by serving callers. -/
structure Serves (p q : ConnectionPool) : Prop where
  config : q.config = p.config
  phase : q.phase = p.phase
  lifecycle : q.lifecycle = p.lifecycle
  maintained : q.maintained = p.maintained
  slots : p.slots.SameLine q.slots

variable {p q r : ConnectionPool} {now : Instant}

namespace Serves

theorem refl (p : ConnectionPool) : Serves p p where
  config := rfl
  phase := rfl
  lifecycle := rfl
  maintained := rfl
  slots := .refl _

theorem trans (h : Serves p q) (h' : Serves q r) : Serves p r where
  config := h'.config.trans h.config
  phase := h'.phase.trans h.phase
  lifecycle := h'.lifecycle.trans h.lifecycle
  maintained := h'.maintained.trans h.maintained
  slots := h.slots.trans h'.slots

theorem isReady_eq (h : Serves p q) : q.isReady = p.isReady := by
  unfold isReady
  rw [h.phase]

theorem of_slots (hconfig : q.config = p.config) (hphase : q.phase = p.phase)
    (hlifecycle : q.lifecycle = p.lifecycle) (hmaintained : q.maintained = p.maintained)
    (hslots : q.slots = p.slots) : Serves p q where
  config := hconfig
  phase := hphase
  lifecycle := hlifecycle
  maintained := hmaintained
  slots := by
    rw [hslots]
    exact .refl p.slots

theorem take {slots : Semaphore} (h : p.slots.tryTake = .taken slots) :
    Serves p { p with slots := slots } where
  config := rfl
  phase := rfl
  lifecycle := rfl
  maintained := rfl
  slots := .of_taken h

theorem releaseSlot (h : Serves p q) : Serves p q.releaseSlot := by
  rw [releaseSlot_eq]
  constructor
  · exact h.config
  · exact h.phase
  · exact h.lifecycle
  · exact h.maintained
  · exact h.slots.trans (.release q.slots)

theorem giveBack (p : ConnectionPool) (l : Lease) (background : Bool) :
    Serves p (p.giveBack now l background) := by
  rw [giveBack_eq]
  exact ⟨rfl, rfl, rfl, rfl, .release p.slots⟩

theorem takeExpired (p : ConnectionPool) (now : Instant) : Serves p (p.takeExpired now).1 := by
  rw [takeExpired_eq]
  exact of_slots rfl rfl rfl rfl rfl

end Serves

/-!
## Who serves callers
-/

theorem Deed.serves {P : Instant -> Prop} {m : Matter} (h : Deed P now m p q)
    (hm : m ∈ Matter.checkingOut .caller) : Serves p q := by
  cases h with
  | take htaken =>
      exact .take htaken
  | release =>
      exact .releaseSlot (.refl p)
  | evict =>
      exact .takeExpired p now
  | giveBack _ hdated background =>
      exact .giveBack p _ background
  | pick | sweep | reserve | vacate | lend | retire | store | verdict | error | «open» | hit | wait
  | exhaust =>
      exact .of_slots rfl rfl rfl rfl rfl
  | join | collect | leave | unline | lock | unlock | leaveLock | turn | furnish | tell
  | closeSlots | drain =>
      exact absurd hm (by decide)

theorem Deeds.serves {P : Instant -> Prop} {matters : List Matter} (h : Deeds P now matters p q)
    (hsub : matters ⊆ Matter.checkingOut .caller) : Serves p q :=
  h.invariant (fun hm hdeed hserves => hserves.trans (hdeed.serves (hsub hm))) (.refl p)

theorem Matter.checkingOut_subset (purpose : CheckoutPurpose) :
    checkingOut purpose ⊆ checkingOut .caller := by
  cases purpose with
  | caller | healthCheck =>
      decide

namespace Checkout

theorem serves_search (p : ConnectionPool) : Serves p (search p now).1 :=
  (does_search p.dated_any).deeds.serves (by decide)

theorem serves_land (p : ConnectionPool) (result : Except PoolError Connection) :
    Serves p (land p now result).1 :=
  (does_land (P := fun _ => True) trivial result).deeds.serves (by decide)

theorem serves_step (purpose : CheckoutPurpose) (p : ConnectionPool) (k : Checkout) (r : Reply) :
    Serves p (k.step purpose p now r).1 :=
  (does_step purpose p.dated_any trivial k.dated_any r).deeds.serves
    (Matter.checkingOut_subset purpose)

theorem serves_cancel (p : ConnectionPool) (k : Checkout) : Serves p (k.cancel p now) :=
  (k.deeds_cancel p k.dated_any).serves (by decide)

end Checkout

namespace Checkup

theorem serves_replenished (hserves : Serves p q) (now : Instant) (d : Connection) :
    Serves p (replenished q now d) :=
  hserves.trans ((deeds_replenished (P := fun _ => True) trivial q d).serves (by decide))

theorem serves_unreplenished (hserves : Serves p q) : Serves p (unreplenished q) :=
  hserves.releaseSlot.trans (.of_slots rfl rfl rfl rfl rfl)

theorem serves_start (p : ConnectionPool) : Serves p (start p now).1 :=
  (does_start p.dated_any).deeds.serves (by decide)

theorem serves_step (p : ConnectionPool) (k : Checkup) (r : Reply) :
    Serves p (k.step p now r).1 :=
  (does_step p.dated_any trivial k.dated_any r).deeds.serves (by decide)

theorem serves_cancel (p : ConnectionPool) (k : Checkup) : Serves p (k.cancel p now) :=
  (k.deeds_cancel p k.dated_any).serves (by decide)

end Checkup

namespace Maintenance

theorem serves_step (p : ConnectionPool) (m : Maintenance) (r : Reply) :
    Serves p (m.step p now r).1 :=
  (does_step p.dated_any trivial m.dated_any r).deeds.serves (by decide)

theorem serves_cancel (p : ConnectionPool) (m : Maintenance) : Serves p (m.cancel p now) :=
  (m.deeds_cancel p m.dated_any).serves (by decide)

end Maintenance
end PoolHealth
