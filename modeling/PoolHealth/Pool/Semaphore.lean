/-!
# Fair semaphores

A semaphore hands out permits.  Whoever finds none waits with a ticket; a permit that
comes back is promised to the ticket that has waited longest and cannot be taken by
anybody else.  A closed semaphore hands out nothing any more, not even a permit that
is promised already.  A lock is a semaphore with a single permit.
-/

namespace PoolHealth

abbrev Ticket := Nat

structure Semaphore where
  free : Nat
  closed : Bool := false
  /-- Tickets that wait, the longest first. -/
  queue : List Ticket := []
  /-- Tickets that a permit is kept for. -/
  promised : List Ticket := []
  /-- The ticket that is handed out next. -/
  nextTicket : Ticket := 0
deriving DecidableEq

namespace Semaphore

def ofPermits (n : Nat) : Semaphore where
  free := n

def lock : Semaphore := ofPermits 1

/-- What became of an attempt to take a permit at once. -/
inductive Attempt where
  | taken (s : Semaphore)
  | noneFree
  | closed

/-- Takes a permit if one is free. -/
def tryTake (s : Semaphore) : Attempt :=
  if s.closed then .closed
  else if s.free = 0 then .noneFree
  else .taken { s with free := s.free - 1 }

/-- Gets in line; the ticket is the one handed out next. -/
def wait (s : Semaphore) : Semaphore :=
  { s with queue := s.queue ++ [s.nextTicket], nextTicket := s.nextTicket + 1 }

inductive Standing where
  | waiting
  | promised
  | closed
deriving DecidableEq, Repr

def standing (s : Semaphore) (t : Ticket) : Standing :=
  if s.closed then .closed
  else if s.promised.contains t then .promised
  else .waiting

/-- The ticket that gets the next permit to come back. -/
def successor? (s : Semaphore) : Option Ticket := s.queue.head?

/-- A permit comes back: it is kept for the ticket that waited longest, or it is free
if none waits. -/
def release (s : Semaphore) : Semaphore :=
  match s.queue with
  | [] => { s with free := s.free + 1 }
  | t :: rest => { s with queue := rest, promised := s.promised ++ [t] }

/-- The holder of a ticket takes the permit kept for it. -/
def collect (s : Semaphore) (t : Ticket) : Semaphore := { s with promised := s.promised.erase t }

/-- The holder of a ticket goes away; a permit that was kept for it comes back. -/
def leave (s : Semaphore) (t : Ticket) : Semaphore :=
  if s.promised.contains t then (s.collect t).release
  else { s with queue := s.queue.erase t }

/-- The ticket that learns of its permit when the holder of `t` goes away. -/
def successorOnLeave? (s : Semaphore) (t : Ticket) : Option Ticket :=
  if s.promised.contains t then s.successor? else none

/-- Closes the semaphore; nobody is in line any more. -/
def close (s : Semaphore) : Semaphore := { s with closed := true, queue := [] }

/-!
## Permits are neither made nor lost
-/

def available (s : Semaphore) : Nat := s.free + s.promised.length

theorem available_release (s : Semaphore) : s.release.available = s.available + 1 := by
  unfold release available
  split
  · simp only []
    omega
  · simp only [List.length_append, List.length_singleton]
    omega

theorem available_wait (s : Semaphore) : s.wait.available = s.available := rfl

theorem available_close (s : Semaphore) : s.close.available = s.available := rfl

theorem available_collect {s : Semaphore} {t : Ticket} (h : t ∈ s.promised) :
    (s.collect t).available + 1 = s.available := by
  have hlen := List.length_erase_of_mem h
  have hpos : 0 < s.promised.length := List.length_pos_of_mem h
  simp only [available, collect, hlen]
  omega

theorem mem_promised_of_standing {s : Semaphore} {t : Ticket} (h : s.standing t = .promised) :
    s.closed = false ∧ t ∈ s.promised := by
  unfold standing at h
  split at h
  · cases h
  · rename_i hopen
    split at h
    · rename_i hkept
      exact ⟨Bool.eq_false_iff.mpr hopen, List.elem_iff.mp hkept⟩
    · cases h

theorem available_of_promised {s : Semaphore} {t : Ticket} (h : s.standing t = .promised) :
    (s.collect t).available + 1 = s.available :=
  available_collect (mem_promised_of_standing h).2

theorem available_leave (s : Semaphore) (t : Ticket) : (s.leave t).available = s.available := by
  unfold leave
  split
  · rename_i h
    rw [available_release]
    exact available_collect (List.elem_iff.mp h)
  · rfl

theorem available_of_taken {s s' : Semaphore} (h : s.tryTake = .taken s') :
    s'.available + 1 = s.available := by
  unfold tryTake at h
  split at h
  · cases h
  · split at h
    · cases h
    · cases h
      simp only [available]
      omega

/-!
## Only closing closes
-/

theorem closed_release (s : Semaphore) : s.release.closed = s.closed := by
  unfold release
  split
  · rfl
  · rfl

theorem closed_leave (s : Semaphore) (t : Ticket) : (s.leave t).closed = s.closed := by
  unfold leave
  split
  · rw [closed_release]
    rfl
  · rfl

theorem not_closed_of_taken {s s' : Semaphore} (h : s.tryTake = .taken s') :
    s.closed = false ∧ s'.closed = false := by
  unfold tryTake at h
  split at h
  · cases h
  · rename_i hopen
    split at h
    · cases h
    · cases h
      exact ⟨Bool.eq_false_iff.mpr hopen, Bool.eq_false_iff.mpr hopen⟩

end Semaphore
end PoolHealth
