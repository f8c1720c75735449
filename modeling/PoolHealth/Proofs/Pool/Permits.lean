import PoolHealth.Proofs.Pool.Lines

/-!
# Permits come back

Whatever fails, runs out of time or is dropped, no slot is lost: a permit is free, or a
caller in line has been called and it is kept for that caller, or somebody has it who is
there.  The counter of waiting callers and that of connections which are being opened tell
of parties that are there, too.
-/

namespace PoolHealth

open ConnectionPool

namespace Party

/-- Whether a permit is kept for the party, a caller in line that has not looked yet. -/
def isCalled (slots : Semaphore) (x : Party) : Bool := x.ticket?.any slots.promised.contains

def isUnderway : Party -> Bool
  | caller _ | maintainer _ (.checking _ _) => true
  | maintainer _ (.resting _) | borrower _ | closer _ | finisher _ => false

theorem counts_nowhere (slots : Semaphore) {x : Party} (h : x.isUnderway = false) :
    x.isQueued = false ∧ x.isCalled slots = false ∧ x.isCheckingOut = false ∧
      x.isOpening = false ∧ x.isRefilling = false := by
  cases x with
  | caller k =>
      cases h
  | maintainer n m =>
      cases m with
      | resting due =>
          exact ⟨rfl, rfl, rfl, rfl, rfl⟩
      | checking due k =>
          cases h
  | borrower l | closer c | finisher c =>
      exact ⟨rfl, rfl, rfl, rfl, rfl⟩

theorem countP_isCalled (slots : Semaphore) (xs : List Party) :
    xs.countP (isCalled slots) = (xs.flatMap tickets).countP slots.promised.contains := by
  induction xs with
  | nil =>
      rfl
  | cons x rest ih =>
      rw [List.countP_cons, List.flatMap_cons, List.countP_append, ih, Nat.add_comm]
      unfold isCalled tickets
      cases x.ticket? with
      | none =>
          rfl
      | some t =>
          simp [List.countP_cons]

end Party

theorem Lined.countP_promised {s : Semaphore} {held : List Ticket} (h : Lined s held) :
    held.countP s.promised.contains = s.promised.length := by
  have honce : held.Nodup := List.nodup_iff_count_le_one.mpr h.once
  have hkept : forall t, s.promised.count t ≤ held.count t := by
    intro t
    have hknown := h.known t
    rw [Semaphore.tickets, List.count_append] at hknown
    omega
  have hkeptOnce : s.promised.Nodup := by
    rw [List.nodup_iff_count_le_one]
    intro t
    exact Nat.le_trans (hkept t) (h.once t)
  -- Neither list has duplicates, so it is enough that they have the same members.
  rw [List.countP_eq_length_filter]
  apply List.Perm.length_eq
  rw [List.perm_ext_iff_of_nodup (honce.filter _) hkeptOnce]
  intro t
  rw [List.mem_filter, List.contains_iff_mem]
  constructor
  · intro ht
    exact ht.2
  · intro ht
    refine ⟨?_, ht⟩
    apply List.count_pos_iff.mp
    exact Nat.lt_of_lt_of_le (List.count_pos_iff.mpr ht) (hkept t)

namespace Traffic

variable {c : PoolConfig} {t : Traffic} {log : Log}

/-- Every permit is free, or kept for a caller that was called, or held by a borrower, by a
checkout or by a refill, whatever has happened before.  The callers in line are those that
count as waiting, and the connections that are being opened for checkouts and refills are
those that count as pending.  So nothing is missing when nobody is there. -/
theorem permits_come_back (h : Run (ofConfig c) log t) :
    t.pool.slots.free + t.parties.countP (Party.isCalled t.pool.slots)
          + t.parties.countP Party.isBorrower + t.parties.countP Party.isCheckingOut
          + t.parties.countP Party.isRefilling = c.maxSize.toNat ∧
      t.pool.slots.promised.length = t.parties.countP (Party.isCalled t.pool.slots) ∧
      t.pool.stats.waiting = t.parties.countP Party.isQueued ∧
      t.pool.pending
        = t.parties.countP Party.isOpening + t.parties.countP Party.isRefilling ∧
      ((forall x, x ∈ t.parties -> x.isBorrower = false ∧ x.isUnderway = false) ->
        t.pool.slots.free = c.maxSize.toNat ∧ t.pool.stats.waiting = 0 ∧ t.pool.pending = 0) := by
  have hbalanced := h.balanced
  have hslots := hbalanced.slots
  have hwaiting := hbalanced.waiting
  have hpending := hbalanced.pending
  have hcalled := h.lined.countP_promised
  rw [h.tally_slots, Semaphore.available, h.config_eq (settled_ofConfig c)] at hslots
  rw [h.tally_inLine] at hwaiting
  rw [h.tally_pending] at hpending
  rw [tickets, ← Party.countP_isCalled] at hcalled
  have hmax : (ofConfig c).pool.config.maxSize = c.maxSize := rfl
  rw [hmax] at hslots
  refine ⟨by omega, hcalled.symm, hwaiting, hpending, ?_⟩
  intro hnobody
  have hnone : forall P : Party -> Bool, (forall x, x ∈ t.parties -> P x = false) ->
      t.parties.countP P = 0 := by
    intro P hP
    rw [List.countP_eq_zero]
    intro x hx
    rw [hP x hx]
    exact Bool.false_ne_true
  have hnowhere := fun x hx => Party.counts_nowhere t.pool.slots (hnobody x hx).2
  have hborrowers := hnone Party.isBorrower (fun x hx => (hnobody x hx).1)
  have hqueued := hnone Party.isQueued (fun x hx => (hnowhere x hx).1)
  have hkept := hnone (Party.isCalled t.pool.slots) (fun x hx => (hnowhere x hx).2.1)
  have hcheckouts := hnone Party.isCheckingOut (fun x hx => (hnowhere x hx).2.2.1)
  have hopenings := hnone Party.isOpening (fun x hx => (hnowhere x hx).2.2.2.1)
  have hrefills := hnone Party.isRefilling (fun x hx => (hnowhere x hx).2.2.2.2)
  omega

/-- Two callers are served, a third one gets in line.  One of the two finds its connection
invalid and cannot open another one, the third one is called and is dropped before it looks,
and the last one is dropped as well. -/
def callersOutOfLuck : List Action :=
  [.call .warmUp, .reply 0 (.created (.ok ⟨0⟩)), .reply 0 (.created (.ok ⟨1⟩)), .call .acquire,
    .call .acquire, .call .acquire, .reply 1 (.validated false), .reply 1 .timedOut,
    .reply 1 .timedOut, .reply 1 .stirred, .reply 1 .timedOut, .reply 1 .stirred,
    .reply 1 .timedOut, .drop 2, .drop 1]

/-- Both slots are free afterwards. -/
theorem permits_come_back_after_failures :
    exists log t, Run (ofConfig pairConfig) log t ∧
      log.map (fun e => e.2) = callersOutOfLuck ∧ t.pool.stats.errors = 4 ∧
      t.pool.slots.free = pairConfig.maxSize.toNat ∧ t.pool.stats.waiting = 0 ∧
      t.pool.pending = 0 := by
  have hrun : ((ofConfig pairConfig).run callersOutOfLuck).any
      (fun t => t.pool.stats.errors = 4 ∧
        (t.parties.all fun x => !x.isBorrower && !x.isUnderway) = true) = true := by
    decide +kernel
  rcases exists_run_of_any hrun with ⟨log, t, h, hactions, hend⟩
  rcases of_decide_eq_true hend with ⟨herrors, hnobody⟩
  refine ⟨log, t, h, hactions, herrors, (permits_come_back h).2.2.2.2 ?_⟩
  intro x hx
  have hgone := List.all_eq_true.mp hnobody x hx
  simpa using hgone

end Traffic
end PoolHealth
