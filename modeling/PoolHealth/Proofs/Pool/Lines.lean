import PoolHealth.Proofs.Pool.Roles
import PoolHealth.Proofs.Pool.Serving

/-!
# The line for slots

A caller in line has a ticket of its own.  As long as slots can be had at all, the line
consists of the tickets of those callers, each of them once: it waits, or a permit is kept
for it.  When the slots are closed everybody leaves the line, and only permits that were kept
before are still kept.
-/

namespace PoolHealth

open ConnectionPool

/-- The line of a semaphore agrees with the tickets that its waiters hold. -/
structure Lined (s : Semaphore) (held : List Ticket) : Prop where
  once : forall t, held.count t ≤ 1
  early : forall t, t ∈ held -> t < s.nextTicket
  known : forall t, s.tickets.count t ≤ held.count t
  complete : s.closed = false -> forall t, s.tickets.count t = held.count t
  turnedAway : s.closed = true -> s.queue = []

namespace Lined

variable {s s' : Semaphore} {held held' : List Ticket} {t : Ticket}

theorem ofPermits (n : Nat) : Lined (.ofPermits n) [] where
  once := fun _ => Nat.zero_le _
  early := fun _ h => nomatch h
  known := fun _ => Nat.le_refl _
  complete := fun _ _ => rfl
  turnedAway := fun h => nomatch h

theorem sameLine (h : Lined s held) (hsame : s.SameLine s') : Lined s' held where
  once := h.once
  early := by
    rw [hsame.nextTicket]
    exact h.early
  known := by
    intro t
    rw [hsame.tickets.count_eq]
    exact h.known t
  complete := by
    intro hopen t
    rw [hsame.closed] at hopen
    rw [hsame.tickets.count_eq]
    exact h.complete hopen t
  turnedAway := by
    intro hclosed
    rw [hsame.closed] at hclosed
    exact hsame.queue (h.turnedAway hclosed)

theorem perm (h : Lined s held) (hperm : held'.Perm held) : Lined s held' where
  once := by
    intro t
    rw [hperm.count_eq]
    exact h.once t
  early := fun t ht => h.early t (hperm.mem_iff.mp ht)
  known := by
    intro t
    rw [hperm.count_eq]
    exact h.known t
  complete := by
    intro hopen t
    rw [hperm.count_eq]
    exact h.complete hopen t
  turnedAway := h.turnedAway

theorem wait (hopen : s.closed = false) (h : Lined s held) :
    Lined s.wait (s.nextTicket :: held) := by
  have hnew : held.count s.nextTicket = 0 := by
    rw [List.count_eq_zero]
    intro hmem
    exact Nat.lt_irrefl _ (h.early _ hmem)
  have hcount : forall t, s.wait.tickets.count t = (s.nextTicket :: held).count t := by
    intro t
    have hline := h.complete hopen t
    simp only [Semaphore.tickets, Semaphore.wait, List.count_append, List.count_cons,
      List.count_nil] at hline ⊢
    omega
  constructor
  · intro t
    have hone := h.once t
    rw [List.count_cons]
    by_cases heq : s.nextTicket = t
    · subst heq
      rw [hnew]
      simp
    · simpa [heq] using hone
  · intro t ht
    rcases List.mem_cons.mp ht with rfl | ht
    · exact Nat.lt_succ_self _
    · exact Nat.lt_succ_of_lt (h.early t ht)
  · intro t
    exact Nat.le_of_eq (hcount t)
  · intro _ t
    exact hcount t
  · intro hclosed
    have hshut : s.closed = true := hclosed
    rw [hopen] at hshut
    cases hshut

theorem remove (h : Lined s (t :: held)) (hclosed : s'.closed = s.closed)
    (hnext : s'.nextTicket = s.nextTicket) (hqueue : s.queue = [] -> s'.queue = [])
    (hcount : forall u, s'.tickets.count u = s.tickets.count u - if t == u then 1 else 0) :
    Lined s' held where
  once := by
    intro u
    have hone := h.once u
    rw [List.count_cons] at hone
    omega
  early := by
    intro u hu
    rw [hnext]
    exact h.early u (List.mem_cons_of_mem t hu)
  known := by
    intro u
    have hknown := h.known u
    rw [List.count_cons] at hknown
    rw [hcount]
    omega
  complete := by
    intro hopen u
    rw [hclosed] at hopen
    have hline := h.complete hopen u
    rw [List.count_cons] at hline
    rw [hcount]
    omega
  turnedAway := by
    intro hshut
    rw [hclosed] at hshut
    exact hqueue (h.turnedAway hshut)

theorem collect (hkept : t ∈ s.promised) (h : Lined s (t :: held)) : Lined (s.collect t) held := by
  refine h.remove rfl rfl id ?_
  intro u
  simp only [Semaphore.tickets, Semaphore.collect, List.count_append, List.count_erase]
  by_cases heq : t = u
  · subst heq
    have hsome : 0 < s.promised.count t := List.count_pos_iff.mpr hkept
    simp only [beq_self_eq_true, if_true]
    omega
  · simp [heq]

/-- Somebody leaves the line, and a permit that was kept for it is kept for the next one. -/
theorem leave (h : Lined s (t :: held)) : Lined (s.leave t) held := by
  unfold Semaphore.leave
  split
  · rename_i hkept
    exact (h.collect (List.elem_iff.mp hkept)).sameLine (.release _)
  · rename_i hnone
    refine h.remove rfl rfl ?_ ?_
    · intro hempty
      simp [hempty]
    · intro u
      simp only [Semaphore.tickets, List.count_append, List.count_erase]
      by_cases heq : t = u
      · subst heq
        have hzero : s.promised.count t = 0 := by
          rw [List.count_eq_zero]
          intro hmem
          exact hnone (List.elem_iff.mpr hmem)
        rw [hzero]
        simp
      · simp [heq]

theorem close (h : Lined s held) : Lined s.close held where
  once := h.once
  early := h.early
  known := by
    intro t
    have hknown := h.known t
    simp only [Semaphore.tickets, Semaphore.close, List.count_append, List.count_nil] at hknown ⊢
    omega
  complete := fun hopen => nomatch hopen
  turnedAway := fun _ => rfl

end Lined

/-!
## What calls do to the line
-/

variable {p : ConnectionPool} {now : Instant} {held : List Ticket}

namespace Acquire

def tickets : Acquire -> List Ticket
  | queued t _ => [t]
  | checkingOut _ _ => []

def ticketsOf : Progress Acquire (Except PoolError Lease) -> List Ticket
  | .waiting k => k.tickets
  | .done _ => []

theorem lined_proceed (started : Instant) (h : Lined p.slots held) :
    Lined (proceed p now started).1.slots (ticketsOf (proceed p now started).2 ++ held) :=
  h.sameLine (Checkout.serves_search p).slots

theorem lined_start (h : Lined p.slots held) :
    Lined (start p now).1.slots (ticketsOf (start p now).2 ++ held) := by
  unfold start
  split
  · exact h
  · split
    · rename_i slots htaken
      exact lined_proceed now (h.sameLine (Serves.take htaken).slots)
    · exact h
    · rename_i hfull
      exact h.wait (Semaphore.open_of_noneFree hfull)

theorem lined_step {k : Acquire} (r : Reply) (h : Lined p.slots (k.tickets ++ held)) :
    Lined (k.step p now r).1.slots (ticketsOf (k.step p now r).2 ++ held) := by
  have hcheckout : forall c q progress, Checkout.step .caller p now c r = (q, progress) ->
      p.slots.SameLine q.slots := by
    intro c q progress hstep
    have hserves : Serves p (c.step .caller p now r).1 := c.serves_step .caller p r
    rw [hstep] at hserves
    exact hserves.slots
  have honward := onward p now k r
  generalize k.step p now r = after at honward ⊢
  cases honward with
  | called hturn =>
      exact lined_proceed _ (h.collect (Semaphore.mem_promised_of_standing hturn).2)
  | turnedAway hclosed =>
      rw [leaveSlotQueue_eq]
      exact h.leave
  | gaveUp t started =>
      unfold giveUp
      rw [leaveSlotQueue_eq]
      exact h.leave
  | patient hwaits | still hunfit =>
      exact h
  | again hstep | failed hstep =>
      exact h.sameLine (hcheckout _ _ _ hstep)
  | served hstep =>
      have hsame := hcheckout _ _ _ hstep
      exact h.sameLine hsame

theorem lined_cancel {k : Acquire} (h : Lined p.slots (k.tickets ++ held)) :
    Lined (k.cancel p now).slots held := by
  cases k with
  | queued t started =>
      simp only [cancel]
      rw [leaveSlotQueue_eq]
      exact h.leave
  | checkingOut started k =>
      exact h.sameLine (k.serves_cancel p).slots

end Acquire

section Deeds

variable {P : Instant -> Prop} {q : ConnectionPool} {m : Matter} {matters : List Matter}

/-- Nobody gets in line and nobody leaves it, unless everybody does. -/
theorem Deed.lined (h : Deed P now m p q) (hm : m ≠ .line) (hp : Lined p.slots held) :
    Lined q.slots held := by
  by_cases hserving : m ∈ Matter.checkingOut .caller
  · exact hp.sameLine (h.serves hserving).slots
  · cases h with
    | unlock =>
        rw [releaseLock_eq]
        exact hp
    | leaveLock t =>
        rw [leaveLockQueue_eq]
        exact hp
    | furnish _ hnow opened =>
        unfold WarmUp.furnish
        rw [foldl_recordCreation]
        exact hp
    | closeSlots =>
        exact hp.close
    | lock | turn | tell | drain =>
        exact hp
    | join | collect | leave | unline =>
        exact absurd rfl hm
    | take | release | pick | sweep | evict | reserve | vacate | lend | retire | store | giveBack
    | verdict | error | «open» | hit | wait | exhaust =>
        exact absurd (by decide) hserving

theorem Deeds.lined (h : Deeds P now matters p q) (hline : .line ∉ matters)
    (hp : Lined p.slots held) : Lined q.slots held := by
  refine h.invariant (I := fun q => Lined q.slots held) ?_ hp
  intro q r m hmem hdeed hq
  apply hdeed.lined _ hq
  rintro rfl
  exact hline hmem

end Deeds

namespace Party

def tickets (x : Party) : List Ticket := x.ticket?.toList

theorem tickets_caller_acquire (k : Acquire) : (caller (.acquire k)).tickets = k.tickets := by
  cases k with
  | queued t started | checkingOut started k =>
      rfl

theorem tickets_of_result (r : Except PoolError Lease) :
    (ofProgress (.done (.lent r))).flatMap tickets = [] := by
  cases r with
  | ok l | error e =>
      rfl

end Party

namespace Matter

variable {request : PoolRequest}

theorem line_notMem_of (h : request ≠ .acquire) : .line ∉ Matter.of request := by
  cases request with
  | acquire =>
      contradiction
  | tryAcquire | checkup | warmUp | shutDown =>
      decide

theorem line_notMem_ofCancel (h : request ≠ .acquire) : .line ∉ Matter.ofCancel request := by
  cases request with
  | acquire =>
      contradiction
  | tryAcquire | checkup | warmUp | shutDown =>
      decide

end Matter

namespace PoolCall

/-- The tickets of a call that waits again, or of a borrower that comes of it. -/
def ticketsOf (k : Progress PoolCall PoolAnswer) : List Ticket :=
  (Party.ofProgress k).flatMap Party.tickets

theorem ticketsOf_wrap_acquire
    (result : ConnectionPool × Progress Acquire (Except PoolError Lease)) :
    ticketsOf (wrap acquire .lent result).2 = Acquire.ticketsOf result.2 := by
  rcases result with ⟨q, k | r⟩
  · show (Party.caller (.acquire k)).tickets ++ [] = k.tickets
    rw [List.append_nil, Party.tickets_caller_acquire]
  · exact Party.tickets_of_result r

theorem ticketsOf_wrap {σ α : Type} {call : σ -> PoolCall} {answer : α -> PoolAnswer}
    (hcall : forall k, (Party.caller (call k)).tickets = [])
    (hanswer : forall a, ticketsOf (.done (answer a)) = [])
    (result : ConnectionPool × Progress σ α) : ticketsOf (wrap call answer result).2 = [] := by
  rcases result with ⟨q, k | a⟩
  · show (Party.caller (call k)).tickets ++ [] = []
    rw [List.append_nil, hcall]
  · exact hanswer a

theorem lined_start (request : PoolRequest) (h : Lined p.slots held) :
    Lined (start p now request).1.slots (ticketsOf (start p now request).2 ++ held) := by
  have hother : request ≠ .acquire -> Lined (start p now request).1.slots held := by
    intro hrequest
    exact (does_start p.dated_any trivial request).deeds.lined (Matter.line_notMem_of hrequest) h
  cases request with
  | acquire =>
      rw [start, pool_wrap, ticketsOf_wrap_acquire]
      exact Acquire.lined_start h
  | tryAcquire =>
      rw [start, ticketsOf_wrap (fun _ => rfl) Party.tickets_of_result]
      exact hother (by rintro ⟨⟩)
  | checkup | warmUp | shutDown =>
      rw [start, ticketsOf_wrap (fun _ => rfl) (fun _ => rfl)]
      exact hother (by rintro ⟨⟩)

theorem lined_step {k : PoolCall} (r : Reply)
    (h : Lined p.slots ((Party.caller k).tickets ++ held)) :
    Lined (k.step p now r).1.slots (ticketsOf (k.step p now r).2 ++ held) := by
  have hother : k.request ≠ .acquire -> Lined p.slots held ->
      Lined (k.step p now r).1.slots held := by
    intro hrequest hlined
    exact (does_step p.dated_any trivial k.dated_any r).deeds.lined
      (Matter.line_notMem_of hrequest) hlined
  cases k with
  | acquire k =>
      rw [step, pool_wrap, ticketsOf_wrap_acquire]
      rw [Party.tickets_caller_acquire] at h
      exact Acquire.lined_step r h
  | tryAcquire k =>
      rw [step, ticketsOf_wrap (fun _ => rfl) Party.tickets_of_result]
      exact hother (by rintro ⟨⟩) h
  | checkup k | warmUp k | shutDown k =>
      rw [step, ticketsOf_wrap (fun _ => rfl) (fun _ => rfl)]
      exact hother (by rintro ⟨⟩) h

theorem lined_cancel {k : PoolCall} (h : Lined p.slots ((Party.caller k).tickets ++ held)) :
    Lined (k.cancel p now).slots held := by
  have hother : k.request ≠ .acquire -> Lined p.slots held ->
      Lined (k.cancel p now).slots held := by
    intro hrequest hlined
    exact (k.deeds_cancel p k.dated_any).lined (Matter.line_notMem_ofCancel hrequest) hlined
  cases k with
  | acquire k =>
      rw [Party.tickets_caller_acquire] at h
      exact Acquire.lined_cancel h
  | tryAcquire k | checkup k | warmUp k | shutDown k =>
      exact hother (by rintro ⟨⟩) h

end PoolCall

/-!
## What actions do to the line
-/

namespace Traffic

variable {c : PoolConfig} {s t : Traffic} {log : Log}

def tickets (s : Traffic) : List Ticket := s.parties.flatMap Party.tickets

theorem adopt_tickets (s : Traffic) (q : ConnectionPool) : (s.adopt q).tickets = s.tickets := by
  apply adopt_of_react
  intro u e
  cases e with
  | closeLater c | maintenanceStarted =>
      simp [tickets, react, Party.tickets, Party.ticket?]
  | slotStirred t | lockPassed t | maintenanceStopping | measured m =>
      rfl

theorem exists_tickets_perm {i : Nat} {x : Party} (h : s.parties[i]? = some x) :
    exists others : List Ticket, (x.tickets ++ others).Perm s.tickets ∧
      forall xs, (s.replace i xs).tickets.Perm (xs.flatMap Party.tickets ++ others) := by
  rcases exists_parties_eq h with ⟨before, after, hparties, hreplace⟩
  refine ⟨(before ++ after).flatMap Party.tickets, ?_, ?_⟩
  · unfold tickets
    rw [hparties]
    simp only [List.flatMap_append, List.flatMap_cons]
    exact List.perm_append_comm_assoc _ _ _
  · intro xs
    unfold tickets
    rw [hreplace]
    simp only [List.flatMap_append, List.append_assoc]
    exact List.perm_append_comm_assoc _ _ _

theorem lined_proceed {x : Party} {r : Reply} {q : ConnectionPool} {xs : List Party}
    (h : Lined s.pool.slots (x.tickets ++ held)) (hproceed : s.proceed r x = some (q, xs)) :
    Lined q.slots (xs.flatMap Party.tickets ++ held) := by
  rcases proceed_cases hproceed with
    ⟨k, rfl, _, rfl, rfl⟩ | ⟨n, m, rfl, _, _, rfl, rfl⟩ | ⟨c, rfl, _, rfl, rfl⟩ |
    ⟨c, rfl, _, rfl, rfl⟩
  · exact PoolCall.lined_step r h
  · exact h.sameLine (m.serves_step s.pool r).slots
  · exact h
  · exact h

theorem lined_abandon {x : Party} {q : ConnectionPool}
    (h : Lined s.pool.slots (x.tickets ++ held)) (habandon : s.abandon x = some q) :
    Lined q.slots held := by
  cases x with
  | caller k =>
      cases habandon
      exact PoolCall.lined_cancel h
  | maintainer n m =>
      cases habandon
      exact h.sameLine (m.serves_cancel s.pool).slots
  | closer c | finisher c =>
      cases habandon
      exact h
  | borrower l =>
      cases habandon

theorem lined_step {a : Action} (hs : Lined s.pool.slots s.tickets) (h : s.step a = some t) :
    Lined t.pool.slots t.tickets := by
  rcases step_cases h with
    ⟨d, rfl, rfl⟩ | ⟨request, rfl, rfl⟩ | ⟨i, r, x, q, xs, rfl, hx, hproceed, rfl⟩ |
    ⟨i, x, q, rfl, hx, habandon, rfl⟩ | ⟨i, background, l, rfl, hx, rfl⟩ | ⟨i, l, rfl, hx, rfl⟩ |
    ⟨i, n, due, rfl, hx, htold, rfl⟩
  · exact hs
  · rw [adopt_pool, adopt_tickets]
    refine (PoolCall.lined_start request hs).perm ?_
    simp only [tickets, List.flatMap_append]
    exact List.perm_append_comm
  -- Otherwise one party goes on or goes away, and the others keep their tickets.
  all_goals
    rcases exists_tickets_perm hx with ⟨others, hbefore, hafter⟩
    have hsplit := hs.perm hbefore
  · rw [adopt_pool, adopt_tickets]
    exact (lined_proceed hsplit hproceed).perm (hafter xs)
  · rw [adopt_pool, adopt_tickets]
    exact (lined_abandon hsplit habandon).perm (hafter [])
  · rw [adopt_pool, adopt_tickets]
    exact (hsplit.sameLine (Serves.giveBack s.pool l background).slots).perm (hafter [])
  · exact hsplit.perm (hafter _)
  · exact hsplit.perm (hafter _)

/-- Throughout a run the line for slots agrees with the callers in line. -/
theorem Run.lined (h : Run (ofConfig c) log t) : Lined t.pool.slots t.tickets :=
  h.invariant lined_step (.ofPermits _)

end Traffic
end PoolHealth
