import PoolHealth.Proofs.Pool.Cancellation

/-!
# Who holds a slot

A slot is held by a borrower, by a checkout or by a refill; whoever stands in line holds
none.  Nobody else counts when slots are counted, and neither does what remains of those who
are gone.  So each of these counts is a count of parties.
-/

namespace PoolHealth

open ConnectionPool Token

structure Token.OnlySlots (w : Token -> Nat) : Prop where
  forgotten : forall c, w (.forgotten c) = 0
  retired : forall c f, w (.retired c f) = 0
  raw : forall c f, w (.raw c f) = 0
  lock : forall u, w (.lock u) = 0
  checking : w .checking = 0

variable {w : Token -> Nat}

namespace Token.OnlySlots

theorem inLine : OnlySlots Token.inLine := by
  constructor <;> simp

theorem slots : OnlySlots Token.slots := by
  constructor <;> simp

theorem pending : OnlySlots Token.pending := by
  constructor <;> simp

theorem refilling : OnlySlots Token.refilling := by
  constructor <;> simp

end Token.OnlySlots

namespace Checkout

def isOpening : Checkout -> Bool
  | opening _ => true
  | closingExpired _ _ _ | validating _ | closingInvalid _ => false

theorem tally_slots (k : Checkout) : tally Token.slots k.stake = 1 := by
  cases k with
  | closingExpired c rest candidate =>
      cases candidate with
      | none | some e =>
          simp [stake]
  | validating l | closingInvalid c | opening o =>
      rfl

theorem tally_pending (k : Checkout) : tally Token.pending k.stake = k.isOpening.toNat := by
  cases k with
  | closingExpired c rest candidate =>
      cases candidate with
      | none | some e =>
          simp [stake, isOpening]
  | validating l | closingInvalid c | opening o =>
      rfl

theorem tally_inLine (k : Checkout) : tally Token.inLine k.stake = 0 := by
  cases k with
  | closingExpired c rest candidate =>
      cases candidate with
      | none | some e =>
          simp [stake]
  | validating l | closingInvalid c | opening o =>
      rfl

theorem tally_refilling (k : Checkout) : tally Token.refilling k.stake = 0 := by
  cases k with
  | closingExpired c rest candidate =>
      cases candidate with
      | none | some e =>
          simp [stake]
  | validating l | closingInvalid c | opening o =>
      rfl

theorem tally_left (hw : OnlySlots w) (k : Checkout) :
    tally w k.underway = 0 ∧ tally w k.remains = 0 := by
  cases k with
  | closingExpired c rest candidate =>
      cases candidate with
      | none | some e =>
          simp [underway, remains, hw.retired, hw.forgotten]
  | closingInvalid c | validating l | opening o =>
      simp [underway, remains, hw.retired]

end Checkout

namespace Checkup

/-- The opening of a connection that will be idle. -/
def refill? : Checkup -> Option Opening
  | refilling o => some o
  | evicting _ _ | probing _ => none

theorem tally_left (hw : OnlySlots w) (k : Checkup) :
    tally w k.underway = 0 ∧ tally w k.remains = 0 := by
  cases k with
  | evicting c rest | refilling o =>
      simp [underway, remains, hw.retired]
  | probing k =>
      exact k.tally_left hw

theorem tally_stake (hw : OnlySlots w) (k : Checkup) :
    tally w k.stake
      = (k.checkout?.elim 0 fun j => tally w j.stake)
        + k.refill?.elim 0 fun _ => w (.slot .refilling) := by
  cases k with
  | evicting c rest =>
      simp [stake, checkout?, refill?, hw.checking, hw.retired]
  | refilling o | probing k =>
      simp [stake, checkout?, refill?, hw.checking]

end Checkup

theorem WarmUp.tally_none (hw : OnlySlots w) (k : WarmUp) :
    tally w k.stake = 0 ∧ tally w k.underway = 0 ∧ tally w k.remains = 0 := by
  cases k with
  | queued t | opening opened o | rollingBack c rest e =>
      simp [stake, underway, remains, hw.lock, hw.raw]

theorem ShutDown.tally_none (hw : OnlySlots w) (k : ShutDown) :
    tally w k.stake = 0 ∧ tally w k.underway = 0 ∧ tally w k.remains = 0 := by
  cases k with
  | queued t | awaitingMaintenance | closing c rest failure =>
      simp [stake, underway, remains, hw.lock, hw.retired]

namespace Party

def ticket? : Party -> Option Ticket
  | caller (.acquire (.queued t _)) => some t
  | caller (.acquire (.checkingOut _ _)) | caller (.tryAcquire _) | caller (.checkup _)
  | caller (.warmUp _) | caller (.shutDown _) | maintainer _ _ | borrower _ | closer _
  | finisher _ => none

def refill? : Party -> Option Opening
  | caller (.checkup k) => k.refill?
  | maintainer _ (.checking _ k) => k.refill?
  | caller (.acquire _) | caller (.tryAcquire _) | caller (.warmUp _) | caller (.shutDown _) => none
  | maintainer _ (.resting _) | borrower _ | closer _ | finisher _ => none

def lease? : Party -> Option Lease
  | borrower l => some l
  | caller _ | maintainer _ _ | closer _ | finisher _ => none

theorem tally_left (hw : OnlySlots w) (x : Party) :
    tally w x.underway = 0 ∧ tally w x.remains = 0 := by
  cases x with
  | caller call =>
      cases call with
      | acquire k =>
          cases k with
          | queued t started =>
              exact ⟨rfl, rfl⟩
          | checkingOut started k =>
              exact k.tally_left hw
      | tryAcquire k =>
          exact k.tally_left hw
      | checkup k =>
          exact k.tally_left hw
      | warmUp k =>
          exact (k.tally_none hw).2
      | shutDown k =>
          exact (k.tally_none hw).2
  | maintainer n m =>
      cases m with
      | resting due =>
          exact ⟨rfl, rfl⟩
      | checking due k =>
          exact k.tally_left hw
  | borrower l =>
      exact ⟨rfl, rfl⟩
  | closer c | finisher c =>
      simp [underway, remains, hw.retired]

/-- A party has one role at most, and it counts for that. -/
theorem tally_tokens (hw : OnlySlots w) (x : Party) :
    tally w x.tokens
      = (x.ticket?.elim 0 fun _ => w .queued) + (x.lease?.elim 0 fun l => w (.lent l.connection))
        + (x.checkout?.elim 0 fun k => tally w k.stake)
        + x.refill?.elim 0 fun _ => w (.slot .refilling) := by
  unfold tokens
  rw [tally_add, (x.tally_left hw).1, Nat.add_zero]
  cases x with
  | caller call =>
      cases call with
      | acquire k =>
          cases k with
          | queued t started | checkingOut started k =>
              simp [stake, PoolCall.stake, Acquire.stake, ticket?, lease?, checkout?,
                PoolCall.checkout?, Acquire.checkout?, refill?]
      | tryAcquire k =>
          simp [stake, PoolCall.stake, ticket?, lease?, checkout?, PoolCall.checkout?, refill?]
      | checkup k =>
          refine (k.tally_stake hw).trans ?_
          simp [ticket?, lease?, checkout?, PoolCall.checkout?, refill?]
      | warmUp k =>
          exact (k.tally_none hw).1
      | shutDown k =>
          exact (k.tally_none hw).1
  | maintainer n m =>
      cases m with
      | resting due =>
          rfl
      | checking due k =>
          refine (k.tally_stake hw).trans ?_
          simp [ticket?, lease?, checkout?, Maintenance.checkout?, refill?]
  | borrower l =>
      simp [stake, ticket?, lease?, checkout?, refill?]
  | closer c | finisher c =>
      simp [stake, ticket?, lease?, checkout?, refill?, hw.retired]

/-!
## Counting parties
-/

theorem elim_zero_one {α : Type} (o : Option α) : (o.elim 0 fun _ => 1) = o.isSome.toNat := by
  cases o with
  | none | some a =>
      rfl

theorem elim_zero_zero {α : Type} (o : Option α) : (o.elim 0 fun _ => 0) = 0 := by
  cases o with
  | none | some a =>
      rfl

def isQueued (x : Party) : Bool := x.ticket?.isSome

def isCheckingOut (x : Party) : Bool := x.checkout?.isSome

def isRefilling (x : Party) : Bool := x.refill?.isSome

def isOpening (x : Party) : Bool := x.checkout?.any Checkout.isOpening

theorem isSome_lease (x : Party) : x.lease?.isSome = x.isBorrower := by
  cases x with
  | caller k | maintainer n m | borrower l | closer c | finisher c =>
      rfl

theorem tally_inLine (x : Party) : tally inLine x.tokens = x.isQueued.toNat := by
  rw [x.tally_tokens .inLine]
  simp only [inLine, Checkout.tally_inLine, elim_zero_one, elim_zero_zero, Nat.add_zero, isQueued]

theorem tally_slots (x : Party) :
    tally slots x.tokens
      = x.isBorrower.toNat + x.isCheckingOut.toNat + x.isRefilling.toNat := by
  rw [x.tally_tokens .slots, ← isSome_lease]
  simp only [Token.slots, Checkout.tally_slots, elim_zero_one, elim_zero_zero, Nat.zero_add,
    isCheckingOut, isRefilling]

theorem tally_pending (x : Party) :
    tally pending x.tokens = x.isOpening.toNat + x.isRefilling.toNat := by
  have hopening : (x.checkout?.elim 0 fun k => tally pending k.stake) = x.isOpening.toNat := by
    unfold isOpening
    cases x.checkout? with
    | none =>
        rfl
    | some k =>
        exact k.tally_pending
  rw [x.tally_tokens .pending, hopening]
  simp only [Token.pending, elim_zero_one, elim_zero_zero, Nat.zero_add, isRefilling]

theorem tally_refilling (x : Party) : tally refilling x.tokens = x.isRefilling.toNat := by
  rw [x.tally_tokens .refilling]
  simp only [refilling, Checkout.tally_refilling, elim_zero_one, elim_zero_zero, Nat.zero_add,
    isRefilling]

theorem tally_stock (w : Token -> Nat) (xs : List Party) :
    tally w (stock xs) = (xs.map fun x => tally w x.tokens).sum := by
  induction xs with
  | nil =>
      rfl
  | cons x rest ih =>
      rw [stock_cons, tally_add, ih, List.map_cons, List.sum_cons]

end Party

namespace Traffic

variable {c : PoolConfig} {s t : Traffic} {log : Log}

theorem tally_leavings (hw : OnlySlots w) (s : Traffic) (a : Action) :
    tally w (s.leavings a) = 0 := by
  cases a with
  | reply i r =>
      cases hx : s.parties[i]? with
      | none =>
          simp [leavings, hx]
      | some x =>
          simp [leavings, hx, (x.tally_left hw).1]
  | drop i =>
      cases hx : s.parties[i]? with
      | none =>
          simp [leavings, hx]
      | some x =>
          simp [leavings, hx, x.tally_left hw]
  | giveBack i background =>
      simp only [leavings]
      split
      · unfold stranded
        split
        · rfl
        · simp [hw.retired]
      · rfl
  | elapse d | call request | markBroken i | retire i =>
      rfl

theorem Run.tally_held (hw : OnlySlots w) (h : Run (ofConfig c) log t) :
    tally w t.held = (t.parties.map fun x => tally w x.tokens).sum := by
  have hremains : tally w t.remains = 0 := by
    rw [h.tally_remains w]
    simp only [tally_leavings hw, List.map_const', List.sum_replicate_nat, Nat.mul_zero]
    rfl
  rw [held_eq, tally_add, hremains, Nat.add_zero, Party.tally_stock]

theorem Run.tally_inLine (h : Run (ofConfig c) log t) :
    tally inLine t.held = t.parties.countP Party.isQueued := by
  rw [h.tally_held .inLine]
  simp only [Party.tally_inLine, sum_map_toNat]

theorem Run.tally_slots (h : Run (ofConfig c) log t) :
    tally slots t.held
      = t.parties.countP Party.isBorrower + t.parties.countP Party.isCheckingOut
        + t.parties.countP Party.isRefilling := by
  rw [h.tally_held .slots]
  simp only [Party.tally_slots, List.sum_map_add, sum_map_toNat]

theorem Run.tally_pending (h : Run (ofConfig c) log t) :
    tally pending t.held
      = t.parties.countP Party.isOpening + t.parties.countP Party.isRefilling := by
  rw [h.tally_held .pending]
  simp only [Party.tally_pending, List.sum_map_add, sum_map_toNat]

theorem Run.tally_refilling (h : Run (ofConfig c) log t) :
    tally refilling t.held = t.parties.countP Party.isRefilling := by
  rw [h.tally_held .refilling]
  simp only [Party.tally_refilling, sum_map_toNat]

end Traffic
end PoolHealth
