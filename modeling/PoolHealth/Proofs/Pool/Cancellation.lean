import PoolHealth.Proofs.Pool.Conservation

/-!
# Cancellation

A call that is dropped gives back what it has: a slot, a place in line, or a connection
that is being probed.  There is one exception.  A checkout that closes expired
connections may have found its candidate already; if it is dropped then, the candidate
counts as on loan for ever, and nobody has it.

The number of connections on loan is therefore the number of those that somebody has, and
one more for each checkout that was dropped in that place.
-/

namespace PoolHealth

open ConnectionPool Token

namespace Checkout

def connection? : Checkout -> Option Connection
  | closingExpired _ _ (some e) => some e.connection
  | validating l => some l.connection
  | closingExpired _ _ none | closingInvalid _ | opening _ => none

/-- Whether a connection is forgotten if the checkout is dropped. -/
def forgets : Checkout -> Bool
  | closingExpired _ _ (some _) => true
  | closingExpired _ _ none | validating _ | closingInvalid _ | opening _ => false

theorem tally_active_stake (k : Checkout) :
    tally active k.stake = k.connection?.isSome.toNat := by
  cases k with
  | closingExpired c rest candidate =>
      cases candidate with
      | none =>
          simp [stake, connection?]
      | some e =>
          simp [stake, connection?]
  | validating l =>
      rfl
  | closingInvalid c =>
      rfl
  | opening o =>
      rfl

theorem tally_active_underway (k : Checkout) : tally active k.underway = 0 := by
  cases k with
  | closingExpired c rest candidate | validating l | closingInvalid c | opening o =>
      rfl

theorem tally_active_remains (k : Checkout) : tally active k.remains = k.forgets.toNat := by
  cases k with
  | closingExpired c rest candidate =>
      cases candidate with
      | none =>
          simp [remains, forgets]
      | some e =>
          simp [remains, forgets]
  | validating l | closingInvalid c | opening o =>
      rfl

end Checkout

theorem Checkup.tally_active_evicting (c : Connection) (rest : List Connection) :
    tally active (evicting c rest).stake = 0 ∧ tally active (evicting c rest).underway = 0 ∧
      tally active (evicting c rest).remains = 0 := by
  refine ⟨?_, rfl, ?_⟩
  · simp [stake]
  · simp [remains]

theorem WarmUp.tally_active (k : WarmUp) :
    tally active k.stake = 0 ∧ tally active k.underway = 0 ∧ tally active k.remains = 0 := by
  cases k with
  | queued t =>
      exact ⟨rfl, rfl, rfl⟩
  | opening opened o =>
      refine ⟨?_, rfl, ?_⟩
      · simp [stake]
      · simp [remains]
  | rollingBack c rest e =>
      refine ⟨?_, rfl, ?_⟩
      · simp [stake]
      · simp [remains]

theorem ShutDown.tally_active (k : ShutDown) :
    tally active k.stake = 0 ∧ tally active k.underway = 0 ∧ tally active k.remains = 0 := by
  cases k with
  | queued t | awaitingMaintenance =>
      exact ⟨rfl, rfl, rfl⟩
  | closing c rest failure =>
      refine ⟨?_, rfl, ?_⟩
      · simp [stake]
      · simp [remains]

/-!
## Remnants
-/

/-- The token of a connection that was counted as closed or that is forgotten. -/
def Token.IsRemnant (t : Token) : Prop :=
  (exists d f, t = .retired d f) ∨ (exists d, t = .forgotten d)

theorem Token.isRemnant_of_mem_lost {rest : List Connection} {t : Token} (ht : t ∈ lost rest) :
    t.IsRemnant := by
  rcases mem_each.mp ht with ⟨d, _, rfl⟩
  exact Or.inl ⟨d, .lost, rfl⟩

theorem Token.isRemnant_of_mem_retired {c : Connection} {f : Fate} {t : Token}
    (ht : t ∈ ({.retired c f} : Multiset Token)) : t.IsRemnant :=
  Or.inl ⟨c, f, Multiset.mem_singleton.mp ht⟩

theorem Checkout.isRemnant (k : Checkout) {t : Token} (ht : t ∈ k.underway + k.remains) :
    t.IsRemnant := by
  rcases Multiset.mem_add.mp ht with ht | ht
  · cases k with
    | closingExpired c rest candidate | closingInvalid c =>
        exact isRemnant_of_mem_retired ht
    | validating l | opening o =>
        cases Multiset.notMem_zero t ht
  · cases k with
    | closingExpired c rest candidate =>
        cases candidate with
        | none =>
            exact isRemnant_of_mem_lost ht
        | some e =>
            rcases Multiset.mem_add.mp ht with ht | ht
            · exact Or.inr ⟨e.connection, Multiset.mem_singleton.mp ht⟩
            · exact isRemnant_of_mem_lost ht
    | closingInvalid c | validating l | opening o =>
        cases Multiset.notMem_zero t ht

theorem Checkup.isRemnant (k : Checkup) {t : Token} (ht : t ∈ k.underway + k.remains) :
    t.IsRemnant := by
  cases k with
  | evicting c rest =>
      rcases Multiset.mem_add.mp ht with ht | ht
      · exact isRemnant_of_mem_retired ht
      · exact isRemnant_of_mem_lost ht
  | refilling o =>
      cases Multiset.notMem_zero t ht
  | probing k =>
      exact k.isRemnant ht

/-!
## Parties
-/

namespace Party

def isBorrower : Party -> Bool
  | borrower _ => true
  | caller _ | maintainer _ _ | closer _ | finisher _ => false

def isOwner (x : Party) : Bool := x.checkout?.any fun k => k.connection?.isSome

def forgets (x : Party) : Bool := x.checkout?.any Checkout.forgets

theorem tokens_of_checkout {x : Party} {k : Checkout} (h : x.checkout? = some k) :
    (x.stake = k.stake ∨ x.stake = {.checking} + k.stake) ∧
      x.underway = k.underway ∧ x.remains = k.remains := by
  cases x with
  | caller call =>
      cases call with
      | acquire j =>
          cases j with
          | queued t started =>
              cases h
          | checkingOut started j =>
              cases h
              exact ⟨Or.inl rfl, rfl, rfl⟩
      | tryAcquire j =>
          cases h
          exact ⟨Or.inl rfl, rfl, rfl⟩
      | checkup j =>
          cases j with
          | evicting c rest | refilling o =>
              cases h
          | probing j =>
              cases h
              exact ⟨Or.inr rfl, rfl, rfl⟩
      | warmUp j | shutDown j =>
          cases h
  | maintainer n m =>
      cases m with
      | resting due =>
          cases h
      | checking due j =>
          cases j with
          | evicting c rest | refilling o =>
              cases h
          | probing j =>
              cases h
              exact ⟨Or.inr rfl, rfl, rfl⟩
  | borrower l | closer c | finisher c =>
      cases h

theorem tally_active_of_no_checkout {x : Party} (h : x.checkout? = none) :
    tally active x.stake = x.isBorrower.toNat ∧ tally active x.underway = 0 ∧
      tally active x.remains = 0 := by
  cases x with
  | caller call =>
      cases call with
      | acquire j =>
          cases j with
          | queued t started =>
              exact ⟨rfl, rfl, rfl⟩
          | checkingOut started j =>
              cases h
      | tryAcquire j =>
          cases h
      | checkup j =>
          cases j with
          | evicting c rest =>
              exact Checkup.tally_active_evicting c rest
          | refilling o =>
              exact ⟨rfl, rfl, rfl⟩
          | probing j =>
              cases h
      | warmUp j =>
          exact WarmUp.tally_active j
      | shutDown j =>
          exact ShutDown.tally_active j
  | maintainer n m =>
      cases m with
      | resting due =>
          exact ⟨rfl, rfl, rfl⟩
      | checking due j =>
          cases j with
          | evicting c rest =>
              exact Checkup.tally_active_evicting c rest
          | refilling o =>
              exact ⟨rfl, rfl, rfl⟩
          | probing j =>
              cases h
  | borrower l | closer c | finisher c =>
      exact ⟨rfl, rfl, rfl⟩

theorem tally_active_tokens (x : Party) :
    tally active x.tokens = x.isBorrower.toNat + x.isOwner.toNat := by
  unfold tokens
  rw [tally_add]
  cases hk : x.checkout? with
  | none =>
      rcases tally_active_of_no_checkout hk with ⟨hstake, hunderway, _⟩
      rw [hstake, hunderway]
      simp [isOwner, hk]
  | some k =>
      rcases tokens_of_checkout hk with ⟨hstake, hunderway, _⟩
      have hsum : tally active x.stake = tally active k.stake := by
        rcases hstake with hstake | hstake
        · rw [hstake]
        · rw [hstake, tally_add]
          exact Nat.zero_add _
      have hborrower : x.isBorrower = false := by
        cases x with
        | borrower l =>
            cases hk
        | caller call | maintainer n m | closer c | finisher c =>
            rfl
      rw [hsum, hunderway, Checkout.tally_active_stake, Checkout.tally_active_underway, hborrower]
      simp [isOwner, hk]

theorem tally_active_underway (x : Party) : tally active x.underway = 0 := by
  cases hk : x.checkout? with
  | none =>
      exact (tally_active_of_no_checkout hk).2.1
  | some k =>
      rw [(tokens_of_checkout hk).2.1]
      exact Checkout.tally_active_underway k

theorem tally_active_remains (x : Party) :
    tally active (x.underway + x.remains) = x.forgets.toNat := by
  rw [tally_add, tally_active_underway]
  cases hk : x.checkout? with
  | none =>
      rw [(tally_active_of_no_checkout hk).2.2]
      simp [forgets, hk]
  | some k =>
      rw [(tokens_of_checkout hk).2.2, Checkout.tally_active_remains]
      simp [forgets, hk]

/-- The parties have as many connections that count as on loan as there are borrowers and
checkouts that own one. -/
theorem tally_active_stock (xs : List Party) :
    tally active (stock xs) = xs.countP isBorrower + xs.countP isOwner := by
  induction xs with
  | nil =>
      rfl
  | cons x rest ih =>
      rw [stock_cons, tally_add, tally_active_tokens, ih, List.countP_cons, List.countP_cons]
      cases x.isBorrower with
      | true =>
          cases x.isOwner with
          | true =>
              simp
              omega
          | false =>
              simp
              omega
      | false =>
          cases x.isOwner with
          | true =>
              simp
              omega
          | false =>
              simp

/-- Whether the party borrows connections or checks them, rather than to set the pool up
or to shut it down. -/
def isVisitor : Party -> Bool
  | caller (.acquire _) | caller (.tryAcquire _) | caller (.checkup _) | maintainer _ _ => true
  | caller (.warmUp _) | caller (.shutDown _) | borrower _ | closer _ | finisher _ => false

theorem isRemnant_of_isVisitor {x : Party} (hvisitor : x.isVisitor = true) {t : Token}
    (ht : t ∈ x.underway + x.remains) : t.IsRemnant := by
  cases x with
  | caller call =>
      cases call with
      | acquire k =>
          cases k with
          | queued t started =>
              cases Multiset.notMem_zero _ ht
          | checkingOut started k =>
              exact k.isRemnant ht
      | tryAcquire k =>
          exact k.isRemnant ht
      | checkup k =>
          exact k.isRemnant ht
      | warmUp k | shutDown k =>
          cases hvisitor
  | maintainer n m =>
      cases m with
      | resting due =>
          cases Multiset.notMem_zero t ht
      | checking due k =>
          exact k.isRemnant ht
  | borrower l | closer c | finisher c =>
      cases hvisitor

theorem named_of_isVisitor {x : Party} (hvisitor : x.isVisitor = true) {t : Token}
    (ht : t ∈ x.underway + x.remains) {d : Connection} (hname : 0 < names d t) :
    (exists f, t = .retired d f) ∨ t = .forgotten d := by
  rcases isRemnant_of_isVisitor hvisitor ht with ⟨e, f, rfl⟩ | ⟨e, rfl⟩
  · have hsame : e = d := by
      by_contra hne
      simp [hne] at hname
    rw [hsame]
    exact Or.inl ⟨f, rfl⟩
  · have hsame : e = d := by
      by_contra hne
      simp [hne] at hname
    rw [hsame]
    exact Or.inr rfl

end Party

namespace Traffic

def forgets (s : Traffic) : Action -> Bool
  | .drop i => s.parties[i]?.any Party.forgets
  | .elapse _ | .call _ | .reply _ _ | .giveBack _ _ | .markBroken _ | .retire _ => false

theorem tally_active_leavings (s : Traffic) (a : Action) :
    tally active (s.leavings a) = (s.forgets a).toNat := by
  cases a with
  | reply i r =>
      cases hx : s.parties[i]? with
      | none =>
          simp [leavings, forgets, hx]
      | some x =>
          simpa [leavings, forgets, hx] using x.tally_active_underway
  | drop i =>
      cases hx : s.parties[i]? with
      | none =>
          simp [leavings, forgets, hx]
      | some x =>
          simpa [leavings, forgets, hx] using x.tally_active_remains
  | giveBack i background =>
      simp only [leavings]
      split
      · unfold stranded
        split
        · rfl
        · rfl
      · rfl
  | elapse d | call request | markBroken i | retire i =>
      rfl

/-- As many connections are forgotten as checkouts were dropped so. -/
theorem Run.tally_active_remains {s t : Traffic} {log : Log} (h : Run s log t) :
    tally active t.remains = tally active s.remains + log.countP fun e => e.1.forgets e.2 := by
  rw [h.tally_remains active]
  simp only [tally_active_leavings, sum_map_toNat]

theorem Run.active_eq {c : PoolConfig} {t : Traffic} {log : Log} (h : Run (ofConfig c) log t) :
    t.pool.stats.active
      = t.parties.countP Party.isBorrower + t.parties.countP Party.isOwner
        + log.countP fun e => e.1.forgets e.2 := by
  rw [h.balanced.active, held_eq, tally_add, Party.tally_active_stock, h.tally_active_remains]
  exact congrArg _ (Nat.zero_add _)

/-- A connection that a visitor has when it is dropped is idle afterwards, or it was
counted as closed, or it is forgotten. -/
theorem fate_of_drop {s u : Traffic} {i : Nat} {x : Party} {d : Connection}
    (hx : s.parties[i]? = some x) (hvisitor : x.isVisitor = true)
    (hd : 0 < tally (names d) x.tokens) (h : s.step (.drop i) = some u) :
    d ∈ u.pool.idle.map (·.connection) ∨ (exists f, .retired d f ∈ u.held) ∨
      x.forgets = true ∧ .forgotten d ∈ u.held := by
  rcases exists_abandon_of_step_drop hx h with ⟨p, habandon, rfl⟩
  have hheld : forall t, t ∈ x.underway + x.remains ∨ t ∈ doomed p.dues ->
      t ∈ (adopt { s.replace i [] with remains := s.remains + x.underway + x.remains } p).held := by
    intro t ht
    rw [adopt_held, held_eq]
    rcases ht with ht | ht
    · rw [add_assoc s.remains]
      simp only [Multiset.mem_add] at ht ⊢
      exact Or.inl (Or.inr (Or.inr ht))
    · exact Multiset.mem_add.mpr (Or.inr ht)
  have hchanges : Changes .any s.now s.pool (x.stake + x.underway) p (x.remains + x.underway) :=
    (changes_abandon trivial habandon).frame x.underway
  have hmentions := hchanges.mentions_eq d
  have hnamed : 0 < s.pool.mentions (x.stake + x.underway) d := by
    unfold mentions
    exact Nat.lt_of_lt_of_le hd (by
      unfold Party.tokens
      omega)
  rw [← hmentions, mentions, add_comm x.remains] at hnamed
  by_cases hidle : 0 < p.idleCount d
  · left
    rw [adopt_pool]
    exact List.count_pos_iff.mp hidle
  · by_cases hdues : 0 < p.dues.count d
    · right
      left
      refine ⟨.pending, hheld _ (Or.inr ?_)⟩
      exact mem_each.mpr ⟨d, List.count_pos_iff.mp hdues, rfl⟩
    · right
      have htokens : 0 < tally (names d) (x.underway + x.remains) := by omega
      rcases exists_mem_of_tally_pos htokens with ⟨t, ht, hname⟩
      rcases Party.named_of_isVisitor hvisitor ht hname with ⟨f, rfl⟩ | rfl
      · left
        exact ⟨f, hheld _ (Or.inl ht)⟩
      · right
        refine ⟨?_, hheld _ (Or.inl ht)⟩
        have hactive := x.tally_active_remains
        cases hforgets : x.forgets with
        | true =>
            rfl
        | false =>
            rw [hforgets] at hactive
            have hzero := tally_eq_zero_iff.mp hactive _ ht
            cases hzero

/-- Connections are lost to cancellation in one way only.  The connections on loan are those
of the borrowers and of the checkouts in flight, and those that dropped checkouts have
forgotten.  A dropped visitor leaves its connections among the idle ones or among those
that count as closed, unless it is one of these checkouts. -/
theorem active_eq_iff_nothing_forgotten {c : PoolConfig} {t : Traffic} {log : Log}
    (h : Run (ofConfig c) log t) :
    t.pool.stats.active
        = t.parties.countP Party.isBorrower + t.parties.countP Party.isOwner
          + (log.countP fun e => e.1.forgets e.2) ∧
      (t.pool.stats.active = t.parties.countP Party.isBorrower + t.parties.countP Party.isOwner <->
        forall e, e ∈ log -> e.1.forgets e.2 = false) ∧
      ((forall x, x ∈ t.parties -> x.checkout? = none) ->
        (t.pool.stats.active = t.parties.countP Party.isBorrower <->
          forall e, e ∈ log -> e.1.forgets e.2 = false)) ∧
      t.pool.stats.closures = tally closures t.held ∧
      forall i x u d, t.parties[i]? = some x -> x.isVisitor = true ->
        0 < tally (names d) x.tokens -> t.step (.drop i) = some u ->
          d ∈ u.pool.idle.map (·.connection) ∨ (exists f, .retired d f ∈ u.held) ∨
            t.forgets (.drop i) = true ∧ .forgotten d ∈ u.held := by
  have hactive := h.active_eq
  have hnothing : (log.countP fun e => e.1.forgets e.2) = 0 <->
      forall e, e ∈ log -> e.1.forgets e.2 = false := by
    rw [List.countP_eq_zero]
    simp only [Bool.not_eq_true]
  refine ⟨hactive, ?_, ?_, h.closures_eq, ?_⟩
  · rw [← hnothing]
    omega
  · intro hnobody
    have howners : t.parties.countP Party.isOwner = 0 := by
      rw [List.countP_eq_zero]
      intro x hx
      simp [Party.isOwner, hnobody x hx]
    rw [← hnothing]
    omega
  · intro i x u d hx hvisitor hd hstep
    rcases fate_of_drop hx hvisitor hd hstep with hidle | hretired | ⟨hforgets, hforgotten⟩
    · exact Or.inl hidle
    · exact Or.inr (Or.inl hretired)
    · refine Or.inr (Or.inr ⟨?_, hforgotten⟩)
      simp [forgets, hx, hforgets]

/-- One of two idle connections has expired when a caller comes. -/
def callerBehindExpired : List Action :=
  [.call .warmUp, .reply 0 (.created (.ok ⟨0⟩)), .reply 0 (.created (.ok ⟨1⟩)), .call .acquire,
    .reply 1 (.validated true), .elapse (.ofMillis 60), .giveBack 1 true,
    .elapse (.ofMillis 50), .call .acquire]

/-- The caller is dropped while the expired connection is closed.  Nobody is left, and a
connection counts as on loan that is neither idle nor closed. -/
theorem candidate_is_forgotten :
    pairConfig.fault? = none ∧
      exists log t, Run (ofConfig pairConfig) log t ∧
        log.map (fun e => e.2) = callerBehindExpired ++ [.drop 1] ∧
        t.pool.isReady = true ∧ (t.parties.all fun x => x.checkout?.isNone) = true ∧
        t.parties.countP Party.isBorrower = 0 ∧ t.pool.stats.active = 1 ∧
        t.pool.idle = [] ∧ t.pool.stats.closures = 1 := by
  have hrun : ((ofConfig pairConfig).run (callerBehindExpired ++ [.drop 1])).any
      (fun t => t.pool.isReady = true ∧ (t.parties.all fun x => x.checkout?.isNone) = true ∧
        t.parties.countP Party.isBorrower = 0 ∧ t.pool.stats.active = 1 ∧
        t.pool.idle = [] ∧ t.pool.stats.closures = 1) = true := by
    decide +kernel
  rcases exists_run_of_any hrun with ⟨log, t, h, hactions, hend⟩
  exact ⟨by decide +kernel, log, t, h, hactions, of_decide_eq_true hend⟩

/-- The caller is dropped after that, while its connection is probed: it is idle again. -/
theorem active_eq_after_dropped_probe :
    exists log t, Run (ofConfig pairConfig) log t ∧
      log.map (fun e => e.2)
        = callerBehindExpired ++ [.reply 1 (.closed (.ok ())), .drop 1] ∧
      t.pool.idle.length = 1 ∧
      (t.pool.stats.active = t.parties.countP Party.isBorrower + t.parties.countP Party.isOwner <->
        forall e, e ∈ log -> e.1.forgets e.2 = false) := by
  have hrun : ((ofConfig pairConfig).run
      (callerBehindExpired ++ [.reply 1 (.closed (.ok ())), .drop 1])).any
      (fun t => t.pool.idle.length = 1) = true := by
    decide +kernel
  rcases exists_run_of_any hrun with ⟨log, t, h, hactions, hend⟩
  exact ⟨log, t, h, hactions, of_decide_eq_true hend, (active_eq_iff_nothing_forgotten h).2.1⟩

end Traffic
end PoolHealth
