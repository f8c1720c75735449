import PoolHealth.Proofs.Pool.LifecycleChanges

/-!
# What actions change

An action at a pool does nothing but the changes of a pool.  They start from all that is
held before it and what the backend brought, and they end with all that is held
afterwards: what a party gives away another one has, or it remains.
-/

namespace PoolHealth

open ConnectionPool Token

variable {law : Law} {now : Instant}

namespace Party

def Unfinished (c : PoolConfig) : Party -> Prop
  | caller k => k.Unfinished c
  | maintainer _ _ | borrower _ | closer _ | finisher _ => True

def stock (xs : List Party) : Multiset Token := (xs.map tokens).sum

@[simp] theorem stock_nil : stock [] = 0 := rfl

@[simp] theorem stock_cons (x : Party) (xs : List Party) :
    stock (x :: xs) = x.tokens + stock xs := by
  simp [stock]

@[simp] theorem stock_append (xs ys : List Party) : stock (xs ++ ys) = stock xs + stock ys := by
  simp [stock]

theorem stock_ofProgress (k : Progress PoolCall PoolAnswer) :
    stock (ofProgress k) = PoolCall.proceeds k := by
  cases k with
  | waiting k =>
      exact add_zero _
  | done answer =>
      cases answer with
      | lent result =>
          cases result with
          | ok l =>
              show ({.lent l.connection} + 0 : Multiset Token) + 0 = {.lent l.connection}
              rw [add_zero, add_zero]
          | error e =>
              rfl
      | checked healthy =>
          rfl
      | switched result =>
          rfl

theorem unfinished_of_mem_ofProgress {k : Progress PoolCall PoolAnswer} {c : PoolConfig}
    (hwaiting : forall j, k = .waiting j -> j.Unfinished c) {x : Party}
    (hx : x ∈ ofProgress k) : x.Unfinished c := by
  cases k with
  | waiting j =>
      cases List.mem_singleton.mp hx
      exact hwaiting j rfl
  | done answer =>
      cases answer with
      | lent result =>
          cases result with
          | ok l =>
              cases List.mem_singleton.mp hx
              exact trivial
          | error e =>
              cases hx
      | checked healthy =>
          cases hx
      | switched result =>
          cases hx

end Party

namespace Action

def arrivals : Action -> List Connection
  | reply _ r => r.arrivals
  | elapse _ | call _ | drop _ | giveBack _ _ | markBroken _ | retire _ => []

end Action

namespace Traffic

theorem held_eq (s : Traffic) : s.held = Party.stock s.parties + s.remains := rfl

/-- No event waits to be taken note of, and nobody sets the pool up who need not. -/
structure Settled (s : Traffic) : Prop where
  outbox : s.pool.outbox = []
  unfinished : forall x, x ∈ s.parties -> x.Unfinished s.pool.config

/-- Whether a checkout opens a connection next although it has not looked at the idle ones
since it closed others. -/
def opensLate (s : Traffic) : Action -> Bool
  | .reply i r => (s.parties[i]?.bind Party.checkout?).any fun k => k.opensLate r
  | _ => false

/-!
## The surroundings
-/

theorem react_pool (s : Traffic) (e : PoolEvent) : (s.react e).pool = s.pool := by
  cases e with
  | slotStirred t | lockPassed t | closeLater c | maintenanceStarted | maintenanceStopping
  | measured m =>
      rfl

theorem react_held (s : Traffic) (e : PoolEvent) : (s.react e).held = s.held + doomed e.dues := by
  cases e with
  | closeLater c =>
      show Party.stock (s.parties ++ [.closer c]) + s.remains
        = Party.stock s.parties + s.remains + ({.retired c .pending} + 0)
      rw [Party.stock_append, Party.stock_cons, Party.stock_nil]
      simp only [Party.tokens, Party.stake, Party.underway]
      abel
  | maintenanceStarted =>
      show Party.stock (s.parties ++ [.maintainer s.round _]) + s.remains
        = Party.stock s.parties + s.remains + 0
      rw [Party.stock_append, Party.stock_cons, Party.stock_nil]
      simp [Party.tokens, Party.stake, Party.underway, Maintenance.start, Maintenance.stake,
        Maintenance.underway]
  | slotStirred t | lockPassed t | maintenanceStopping | measured m =>
      exact (add_zero _).symm

theorem react_unfinished {s : Traffic} {e : PoolEvent} {c : PoolConfig}
    (h : forall x, x ∈ s.parties -> x.Unfinished c) :
    forall x, x ∈ (s.react e).parties -> x.Unfinished c := by
  cases e with
  | closeLater d =>
      intro x hx
      rcases List.mem_append.mp hx with hx | hx
      · exact h x hx
      · cases List.mem_singleton.mp hx
        exact trivial
  | maintenanceStarted =>
      intro x hx
      rcases List.mem_append.mp hx with hx | hx
      · exact h x hx
      · cases List.mem_singleton.mp hx
        exact trivial
  | slotStirred t | lockPassed t | maintenanceStopping | measured m =>
      exact h

theorem foldl_react_pool (events : List PoolEvent) (s : Traffic) :
    (events.foldl react s).pool = s.pool := by
  induction events generalizing s with
  | nil =>
      rfl
  | cons e rest ih =>
      rw [List.foldl_cons, ih, react_pool]

theorem foldl_react_held (events : List PoolEvent) (s : Traffic) :
    (events.foldl react s).held = s.held + doomed (events.flatMap PoolEvent.dues) := by
  induction events generalizing s with
  | nil =>
      exact (add_zero _).symm
  | cons e rest ih =>
      rw [List.foldl_cons, ih, react_held, List.flatMap_cons]
      simp only [doomed, each_append]
      abel

theorem foldl_react_unfinished (events : List PoolEvent) {s : Traffic} {c : PoolConfig}
    (h : forall x, x ∈ s.parties -> x.Unfinished c) :
    forall x, x ∈ (events.foldl react s).parties -> x.Unfinished c := by
  induction events generalizing s with
  | nil =>
      exact h
  | cons e rest ih =>
      rw [List.foldl_cons]
      exact ih (react_unfinished h)

theorem adopt_pool (s : Traffic) (p : ConnectionPool) :
    (s.adopt p).pool = { p with outbox := [] } := foldl_react_pool _ _

theorem adopt_held (s : Traffic) (p : ConnectionPool) :
    (s.adopt p).held = s.held + doomed p.dues := foldl_react_held _ _

theorem adopt_of_react {α : Type} {f : Traffic -> α}
    (hreact : forall s e, f (s.react e) = f s) (s : Traffic) (p : ConnectionPool) :
    f (s.adopt p) = f { s with pool := { p with outbox := [] } } := by
  have hfold : forall (events : List PoolEvent) (u : Traffic), f (events.foldl react u) = f u := by
    intro events
    induction events with
    | nil =>
        intro u
        rfl
    | cons e rest ih =>
        intro u
        rw [List.foldl_cons, ih, hreact]
  exact hfold p.outbox _

theorem adopt_opened (s : Traffic) (p : ConnectionPool) : (s.adopt p).opened = s.opened :=
  adopt_of_react (fun _ e => by cases e <;> rfl) s p

theorem adopt_remains (s : Traffic) (p : ConnectionPool) : (s.adopt p).remains = s.remains :=
  adopt_of_react (fun _ e => by cases e <;> rfl) s p

theorem changes_adopt {s : Traffic} {p q : ConnectionPool} {A : Multiset Token}
    (h : Changes law now p A q s.held) :
    Changes law now p A (s.adopt q).pool (s.adopt q).held := by
  rw [adopt_pool, adopt_held]
  have hnote : Changes law now q s.held { q with outbox := [] } (s.held + doomed q.dues) :=
    Changes.framed (Change.note q) s.held (zero_add _).symm (add_comm _ _)
  exact h.trans hnote

theorem settled_adopt {s : Traffic} {p : ConnectionPool}
    (h : forall x, x ∈ s.parties -> x.Unfinished p.config) : (s.adopt p).Settled := by
  constructor
  · rw [adopt_pool]
  · rw [adopt_pool]
    exact foldl_react_unfinished p.outbox h

/-!
## Parties
-/

theorem exists_parties_eq {s : Traffic} {i : Nat} {x : Party} (h : s.parties[i]? = some x) :
    exists before after, s.parties = before ++ x :: after ∧
      forall xs, (s.replace i xs).parties = before ++ xs ++ after := by
  rcases List.getElem?_eq_some_iff.mp h with ⟨hlt, hget⟩
  refine ⟨s.parties.take i, s.parties.drop (i + 1), ?_, fun _ => rfl⟩
  rw [← hget, List.cons_getElem_drop_succ, List.take_append_drop]

theorem exists_held_eq {s : Traffic} {i : Nat} {x : Party} (h : s.parties[i]? = some x) :
    exists F : Multiset Token,
      s.held = x.tokens + F ∧ forall xs, (s.replace i xs).held = Party.stock xs + F := by
  rcases exists_parties_eq h with ⟨before, after, hparties, hreplace⟩
  refine ⟨Party.stock before + Party.stock after + s.remains, ?_, ?_⟩
  · rw [held_eq, hparties, Party.stock_append, Party.stock_cons]
    abel
  · intro xs
    rw [held_eq, hreplace, Party.stock_append, Party.stock_append]
    show Party.stock before + Party.stock xs + Party.stock after + s.remains = _
    abel

theorem stock_replace_add {s : Traffic} {i : Nat} {xs : List Party} {A : Multiset Token}
    (h : (s.replace i xs).held = A) (R : Multiset Token) :
    Party.stock (s.replace i xs).parties + (s.remains + R) = A + R := by
  rw [← add_assoc, ← h]
  rfl

theorem unfinished_replace {s : Traffic} {i : Nat} {xs : List Party} {c : PoolConfig}
    (h : forall x, x ∈ s.parties -> x.Unfinished c)
    (hxs : forall x, x ∈ xs -> x.Unfinished c) :
    forall x, x ∈ (s.replace i xs).parties -> x.Unfinished c := by
  intro x hx
  rcases List.mem_append.mp hx with hx | hx
  · rcases List.mem_append.mp hx with hx | hx
    · exact h x (List.mem_of_mem_take hx)
    · exact hxs x hx
  · exact h x (List.mem_of_mem_drop hx)

theorem fits_of_allows {s : Traffic} {a : Await} {r : Reply} (h : s.allows a r = true) :
    r.fits a = true := by
  unfold allows at h
  rw [Bool.and_eq_true, Bool.and_eq_true] at h
  exact h.1.1

/-- Everything that can come of a wait that is over. -/
theorem proceed_cases {s : Traffic} {r : Reply} {x : Party} {p : ConnectionPool}
    {xs : List Party} (h : s.proceed r x = some (p, xs)) :
    (exists k, x = .caller k ∧ r.fits (k.await s.pool.config) = true ∧
      p = (k.step s.pool s.now r).1 ∧ xs = Party.ofProgress (k.step s.pool s.now r).2) ∨
    (exists n m, x = .maintainer n m ∧
      (forall due k, m = .checking due k -> r.fits (k.await s.pool.config) = true) ∧
      (forall due, m = .resting due -> r = .stirred) ∧
      p = (m.step s.pool s.now r).1 ∧ xs = [.maintainer n (m.step s.pool s.now r).2]) ∨
    (exists c, x = .closer c ∧ r = .stirred ∧ p = s.pool ∧ xs = [.finisher c]) ∨
    (exists c, x = .finisher c ∧ r.fits (.close c) = true ∧ p = s.pool ∧ xs = []) := by
  cases x with
  | caller k =>
      left
      simp only [proceed] at h
      by_cases hallows : s.allows (k.await s.pool.config) r = true
      · rw [if_pos hallows] at h
        cases h
        exact ⟨k, rfl, fits_of_allows hallows, rfl, rfl⟩
      · rw [if_neg hallows] at h
        cases h
  | maintainer n m =>
      right
      left
      cases m with
      | resting due =>
          simp only [proceed] at h
          by_cases hdue : r.fits (.pause .zero) = true ∧ due ≤ s.now
          · rw [if_pos hdue] at h
            cases h
            refine ⟨n, .resting due, rfl, ?_, ?_, rfl, rfl⟩
            · intro d k hk
              cases hk
            · intro d hd
              exact Reply.eq_stirred_of_fits_pause hdue.1
          · rw [if_neg hdue] at h
            cases h
      | checking due k =>
          simp only [proceed] at h
          by_cases hallows : s.allows (k.await s.pool.config) r = true
          · rw [if_pos hallows] at h
            cases h
            refine ⟨n, .checking due k, rfl, ?_, ?_, rfl, rfl⟩
            · intro d j hj
              cases hj
              exact fits_of_allows hallows
            · intro d hd
              cases hd
          · rw [if_neg hallows] at h
            cases h
  | closer c =>
      right
      right
      left
      simp only [proceed] at h
      by_cases hbegins : r.fits (.pause .zero) = true
      · rw [if_pos hbegins] at h
        cases h
        exact ⟨c, rfl, Reply.eq_stirred_of_fits_pause hbegins, rfl, rfl⟩
      · rw [if_neg hbegins] at h
        cases h
  | finisher c =>
      right
      right
      right
      simp only [proceed] at h
      by_cases hallows : s.allows (.close c) r = true
      · rw [if_pos hallows] at h
        cases h
        exact ⟨c, rfl, fits_of_allows hallows, rfl, rfl⟩
      · rw [if_neg hallows] at h
        cases h
  | borrower l =>
      cases h

theorem proceed_of_checkout {s : Traffic} {r : Reply} {x : Party} {k k' : Checkout}
    {p q : ConnectionPool} {xs : List Party} (hk : x.checkout? = some k)
    (hwaits : forall purpose, k.step purpose s.pool s.now r = (q, .waiting k'))
    (h : s.proceed r x = some (p, xs)) : p = q ∧ exists y, xs = [y] ∧ y.checkout? = some k' := by
  rcases proceed_cases h with
    ⟨call, rfl, _, rfl, rfl⟩ | ⟨n, m, rfl, _, _, rfl, rfl⟩ | ⟨c, rfl, _⟩ | ⟨c, rfl, _⟩
  · cases call with
    | acquire j =>
        cases j with
        | queued t started =>
            cases hk
        | checkingOut started j =>
            cases hk
            simp only [PoolCall.step, Acquire.step, hwaits]
            exact ⟨rfl, _, rfl, rfl⟩
    | tryAcquire j =>
        cases hk
        simp only [PoolCall.step, hwaits]
        exact ⟨rfl, _, rfl, rfl⟩
    | checkup j =>
        cases j with
        | evicting c rest | refilling o =>
            cases hk
        | probing j =>
            cases hk
            simp only [PoolCall.step, Checkup.step, hwaits]
            exact ⟨rfl, _, rfl, rfl⟩
    | warmUp j | shutDown j =>
        cases hk
  · cases m with
    | resting due =>
        cases hk
    | checking due j =>
        cases j with
        | evicting c rest | refilling o =>
            cases hk
        | probing j =>
            cases hk
            simp only [Maintenance.step, Checkup.step, hwaits]
            exact ⟨rfl, _, rfl, rfl⟩
  · cases hk
  · cases hk

theorem changes_proceed {s : Traffic} {r : Reply} {x : Party} {p : ConnectionPool}
    {xs : List Party} (hmissing : x.Unfinished s.pool.config)
    (hlate : forall k, x.checkout? = some k -> k.opensLate r = true -> law.late s.pool)
    (h : s.proceed r x = some (p, xs)) :
    Changes law s.now s.pool (x.stake + raws r.arrivals) p (Party.stock xs) := by
  rcases proceed_cases h with
    ⟨k, rfl, hfits, rfl, rfl⟩ | ⟨n, m, rfl, hfits, hpause, rfl, rfl⟩ | ⟨c, rfl, rfl, rfl, rfl⟩ |
    ⟨c, rfl, hfits, rfl, rfl⟩
  · rw [Party.stock_ofProgress]
    exact PoolCall.changes_step hfits hmissing hlate
  · rw [Party.stock_cons, Party.stock_nil, add_zero]
    exact Maintenance.changes_step hfits hpause hlate
  · refine Changes.framed (Change.hand s.pool c) 0 rfl ?_
    simp only [Party.stock_cons, Party.stock_nil, Party.tokens, Party.stake, Party.underway]
    abel
  · rw [Reply.arrivals_of_fits_close hfits]
    exact Changes.refl s.pool 0

theorem unfinished_proceed {s : Traffic} {r : Reply} {x : Party} {p : ConnectionPool}
    {xs : List Party} (hmissing : x.Unfinished s.pool.config)
    (h : s.proceed r x = some (p, xs)) : forall y, y ∈ xs -> y.Unfinished s.pool.config := by
  intro y hy
  rcases proceed_cases h with
    ⟨k, rfl, hfits, rfl, rfl⟩ | ⟨n, m, rfl, hfits, hpause, rfl, rfl⟩ | ⟨c, rfl, rfl, rfl, rfl⟩ |
    ⟨c, rfl, hfits, rfl, rfl⟩
  · refine Party.unfinished_of_mem_ofProgress ?_ hy
    intro j hj
    exact PoolCall.unfinished_step hmissing hj
  · cases List.mem_singleton.mp hy
    exact trivial
  · cases List.mem_singleton.mp hy
    exact trivial
  · cases hy

theorem abandon_of_checkout {s : Traffic} {x : Party} {k : Checkout} {p : ConnectionPool}
    (hk : x.checkout? = some k) (h : s.abandon x = some p) : p = k.cancel s.pool s.now := by
  cases x with
  | caller call =>
      cases h
      cases call with
      | acquire j =>
          cases j with
          | queued t started =>
              cases hk
          | checkingOut started j =>
              cases hk
              rfl
      | tryAcquire j =>
          cases hk
          rfl
      | checkup j =>
          cases j with
          | evicting c rest | refilling o =>
              cases hk
          | probing j =>
              cases hk
              rfl
      | warmUp j | shutDown j =>
          cases hk
  | maintainer n m =>
      cases h
      cases m with
      | resting due =>
          cases hk
      | checking due j =>
          cases j with
          | evicting c rest | refilling o =>
              cases hk
          | probing j =>
              cases hk
              rfl
  | borrower l | closer c | finisher c =>
      cases hk

theorem changes_abandon {s : Traffic} {x : Party} {p : ConnectionPool} (hdrops : law.drops)
    (h : s.abandon x = some p) : Changes law s.now s.pool x.stake p x.remains := by
  cases x with
  | caller k =>
      cases h
      exact PoolCall.changes_cancel hdrops s.pool k
  | maintainer n m =>
      cases h
      exact Maintenance.changes_cancel hdrops s.pool m
  | closer c =>
      cases h
      exact Changes.one (Change.lose s.pool c hdrops)
  | finisher c =>
      cases h
      exact Changes.refl s.pool 0
  | borrower l =>
      cases h

theorem changes_stranded (s : Traffic) (l : Lease) (background : Bool) :
    Changes law s.now s.pool {.lent l.connection} (s.pool.giveBack s.now l background)
      (s.stranded l background) := by
  unfold stranded
  cases background with
  | true =>
      exact Changes.one (Change.giveBack rfl)
  | false =>
      cases hreuse : s.pool.isReusable s.now l with
      | true =>
          exact Changes.one (Change.giveBack hreuse)
      | false =>
          exact Changes.one (Change.strand hreuse)

/-!
## Actions
-/

/-- Everything that an action can be, with what it leads to. -/
theorem step_cases {s t : Traffic} {a : Action} (h : s.step a = some t) :
    (exists d, a = .elapse d ∧ t = { s with now := ⟨s.now.nanos + d.nanos⟩ }) ∨
    (exists request, a = .call request ∧
      t = adopt
        { s with
          parties := s.parties ++ Party.ofProgress (PoolCall.start s.pool s.now request).2 }
        (PoolCall.start s.pool s.now request).1) ∨
    (exists i r x p xs, a = .reply i r ∧ s.parties[i]? = some x ∧ s.proceed r x = some (p, xs) ∧
      t = adopt
        { s.replace i xs with
          opened := s.opened ++ r.arrivals
          remains := s.remains + x.underway } p) ∨
    (exists i x p, a = .drop i ∧ s.parties[i]? = some x ∧ s.abandon x = some p ∧
      t = adopt { s.replace i [] with remains := s.remains + x.underway + x.remains } p) ∨
    (exists i background l, a = .giveBack i background ∧ s.parties[i]? = some (.borrower l) ∧
      t = adopt { s.replace i [] with remains := s.remains + s.stranded l background }
        (s.pool.giveBack s.now l background)) ∨
    (exists i l, a = .markBroken i ∧ s.parties[i]? = some (.borrower l) ∧
      t = s.replace i [.borrower { l with broken := true }]) ∨
    (exists i n due, a = .retire i ∧ s.parties[i]? = some (.maintainer n (.resting due)) ∧
      n < s.round ∧ t = s.replace i []) := by
  cases a with
  | elapse d =>
      cases h
      exact Or.inl ⟨d, rfl, rfl⟩
  | call request =>
      cases h
      exact Or.inr (Or.inl ⟨request, rfl, rfl⟩)
  | reply i r =>
      rcases Option.bind_eq_some_iff.mp h with ⟨x, hx, hrest⟩
      rcases Option.bind_eq_some_iff.mp hrest with ⟨⟨p, xs⟩, hproceed, hreturn⟩
      cases hreturn
      exact Or.inr (Or.inr (Or.inl ⟨i, r, x, p, xs, rfl, hx, hproceed, rfl⟩))
  | drop i =>
      rcases Option.bind_eq_some_iff.mp h with ⟨x, hx, hrest⟩
      rcases Option.bind_eq_some_iff.mp hrest with ⟨p, habandon, hreturn⟩
      cases hreturn
      exact Or.inr (Or.inr (Or.inr (Or.inl ⟨i, x, p, rfl, hx, habandon, rfl⟩)))
  | giveBack i background =>
      simp only [step] at h
      split at h
      · rename_i l hx
        cases h
        exact Or.inr (Or.inr (Or.inr (Or.inr (Or.inl ⟨i, background, l, rfl, hx, rfl⟩))))
      · cases h
  | markBroken i =>
      simp only [step] at h
      split at h
      · rename_i l hx
        cases h
        exact Or.inr (Or.inr (Or.inr (Or.inr (Or.inr (Or.inl ⟨i, l, rfl, hx, rfl⟩)))))
      · cases h
  | retire i =>
      simp only [step] at h
      split at h
      · rename_i n due hx
        by_cases htold : n < s.round
        · rw [if_pos htold] at h
          cases h
          exact Or.inr (Or.inr (Or.inr (Or.inr (Or.inr (Or.inr
            ⟨i, n, due, rfl, hx, htold, rfl⟩)))))
        · rw [if_neg htold] at h
          cases h
      · cases h

theorem exists_abandon_of_step_drop {s t : Traffic} {i : Nat} {x : Party}
    (hx : s.parties[i]? = some x) (h : s.step (.drop i) = some t) :
    exists p, s.abandon x = some p ∧
      t = adopt { s.replace i [] with remains := s.remains + x.underway + x.remains } p := by
  rcases Option.bind_eq_some_iff.mp h with ⟨y, hy, hrest⟩
  rcases Option.bind_eq_some_iff.mp hrest with ⟨p, habandon, hreturn⟩
  rw [hx] at hy
  cases hy
  cases hreturn
  exact ⟨p, habandon, rfl⟩

theorem changes_step {s t : Traffic} {a : Action} (hsettled : s.Settled)
    (hlate : s.opensLate a = true -> law.late s.pool)
    (hdrops : forall i, a = .drop i -> law.drops) (h : s.step a = some t) :
    Changes law s.now s.pool (s.held + raws a.arrivals) t.pool t.held := by
  rcases step_cases h with
    ⟨d, rfl, rfl⟩ | ⟨request, rfl, rfl⟩ | ⟨i, r, x, p, xs, rfl, hx, hproceed, rfl⟩ |
    ⟨i, x, p, rfl, hx, habandon, rfl⟩ | ⟨i, background, l, rfl, hx, rfl⟩ | ⟨i, l, rfl, hx, rfl⟩ |
    ⟨i, n, due, rfl, hx, htold, rfl⟩
  · exact (Changes.refl s.pool s.held).cast (add_zero _) rfl
  · apply changes_adopt
    have hstart : Changes law s.now s.pool (0 + s.held)
        (PoolCall.start s.pool s.now request).1
        (PoolCall.proceeds (PoolCall.start s.pool s.now request).2 + s.held) :=
      (PoolCall.changes_start s.pool request).frame s.held
    refine hstart.cast ?_ ?_
    · exact add_comm _ _
    · rw [held_eq, held_eq]
      simp only [Party.stock_append, Party.stock_ofProgress]
      abel
  · apply changes_adopt
    rcases exists_held_eq hx with ⟨F, hheld, hreplace⟩
    have hmissing := hsettled.unfinished x (List.mem_of_getElem? hx)
    have hlate' : forall k, x.checkout? = some k -> k.opensLate r = true -> law.late s.pool := by
      intro k hk hopens
      apply hlate
      simp [opensLate, hx, hk, hopens]
    refine ((changes_proceed hmissing hlate' hproceed).frame (x.underway + F)).cast ?_ ?_
    · rw [hheld]
      simp only [Party.tokens, Action.arrivals]
      abel
    · refine (stock_replace_add (hreplace xs) x.underway).trans ?_
      abel
  · apply changes_adopt
    rcases exists_held_eq hx with ⟨F, hheld, hreplace⟩
    refine ((changes_abandon (hdrops i rfl) habandon).frame (x.underway + F)).cast ?_ ?_
    · rw [hheld]
      simp only [Party.tokens, Action.arrivals, raws, each_nil]
      abel
    · show Party.stock (s.replace i []).parties + (s.remains + x.underway + x.remains) = _
      rw [add_assoc, stock_replace_add (hreplace []), Party.stock_nil]
      abel
  · apply changes_adopt
    rcases exists_held_eq hx with ⟨F, hheld, hreplace⟩
    refine ((changes_stranded s l background).frame F).cast ?_ ?_
    · rw [hheld]
      simp only [Party.tokens, Party.stake, Party.underway, Action.arrivals, raws, each_nil]
      abel
    · refine (stock_replace_add (hreplace []) (s.stranded l background)).trans ?_
      rw [Party.stock_nil]
      abel
  · rcases exists_held_eq hx with ⟨F, hheld, hreplace⟩
    refine (Changes.refl s.pool s.held).cast (add_zero _) ?_
    rw [hreplace, hheld, Party.stock_cons, Party.stock_nil, add_zero]
    rfl
  · rcases exists_held_eq hx with ⟨F, hheld, hreplace⟩
    refine (Changes.refl s.pool s.held).cast (add_zero _) ?_
    rw [hreplace, hheld]
    rfl

theorem opened_step {s t : Traffic} {a : Action} (h : s.step a = some t) :
    t.opened = s.opened ++ a.arrivals := by
  have hnone : s.opened = s.opened ++ [] := (List.append_nil _).symm
  rcases step_cases h with
    ⟨d, rfl, rfl⟩ | ⟨request, rfl, rfl⟩ | ⟨i, r, x, p, xs, rfl, hx, hproceed, rfl⟩ |
    ⟨i, x, p, rfl, hx, habandon, rfl⟩ | ⟨i, background, l, rfl, hx, rfl⟩ | ⟨i, l, rfl, hx, rfl⟩ |
    ⟨i, n, due, rfl, hx, htold, rfl⟩
  · exact hnone
  · rw [adopt_opened]
    exact hnone
  · rw [adopt_opened]
    rfl
  · rw [adopt_opened]
    exact hnone
  · rw [adopt_opened]
    exact hnone
  · exact hnone
  · exact hnone

def leavings (s : Traffic) : Action -> Multiset Token
  | .reply i _ => (s.parties[i]?.map Party.underway).getD 0
  | .drop i => (s.parties[i]?.map fun x => x.underway + x.remains).getD 0
  | .giveBack i background =>
      match s.parties[i]? with
      | some (.borrower l) => s.stranded l background
      | _ => 0
  | .elapse _ | .call _ | .markBroken _ | .retire _ => 0

theorem remains_step {s t : Traffic} {a : Action} (h : s.step a = some t) :
    t.remains = s.remains + s.leavings a := by
  have hnone : s.remains = s.remains + 0 := (add_zero _).symm
  rcases step_cases h with
    ⟨d, rfl, rfl⟩ | ⟨request, rfl, rfl⟩ | ⟨i, r, x, p, xs, rfl, hx, hproceed, rfl⟩ |
    ⟨i, x, p, rfl, hx, habandon, rfl⟩ | ⟨i, background, l, rfl, hx, rfl⟩ | ⟨i, l, rfl, hx, rfl⟩ |
    ⟨i, n, due, rfl, hx, htold, rfl⟩
  · exact hnone
  · rw [adopt_remains]
    exact hnone
  · rw [adopt_remains]
    simp [leavings, hx]
  · rw [adopt_remains]
    simp [leavings, hx, add_assoc]
  · rw [adopt_remains]
    simp [leavings, hx]
  · exact hnone
  · exact hnone

theorem config_step {s t : Traffic} {a : Action} (hsettled : s.Settled)
    (h : s.step a = some t) : t.pool.config = s.pool.config := by
  have hchanges : Changes .any s.now s.pool (s.held + raws a.arrivals) t.pool t.held :=
    changes_step hsettled (fun _ => trivial) (fun _ _ => trivial) h
  exact hchanges.config_eq

theorem settled_step {s t : Traffic} {a : Action} (hsettled : s.Settled)
    (h : s.step a = some t) : t.Settled := by
  have hconfig := config_step hsettled h
  have hadopt : forall (u : Traffic) (p : ConnectionPool), t = adopt u p ->
      (forall x, x ∈ u.parties -> x.Unfinished s.pool.config) -> t.Settled := by
    intro u p ht hparties
    subst ht
    apply settled_adopt
    have hp : p.config = s.pool.config := by
      rw [adopt_pool] at hconfig
      exact hconfig
    rw [hp]
    exact hparties
  rcases step_cases h with
    ⟨d, rfl, rfl⟩ | ⟨request, rfl, ht⟩ | ⟨i, r, x, p, xs, rfl, hx, hproceed, ht⟩ |
    ⟨i, x, p, rfl, hx, habandon, ht⟩ | ⟨i, background, l, rfl, hx, ht⟩ | ⟨i, l, rfl, hx, ht⟩ |
    ⟨i, n, due, rfl, hx, htold, ht⟩
  · exact ⟨hsettled.outbox, hsettled.unfinished⟩
  · refine hadopt _ _ ht ?_
    intro x hx
    rcases List.mem_append.mp hx with hx | hx
    · exact hsettled.unfinished x hx
    · exact Party.unfinished_of_mem_ofProgress (fun _ hj => PoolCall.unfinished_start hj) hx
  · have hmissing := hsettled.unfinished x (List.mem_of_getElem? hx)
    exact hadopt _ _ ht
      (unfinished_replace hsettled.unfinished (unfinished_proceed hmissing hproceed))
  · exact hadopt _ _ ht (unfinished_replace hsettled.unfinished (by simp))
  · exact hadopt _ _ ht (unfinished_replace hsettled.unfinished (by simp))
  · rw [ht]
    refine ⟨hsettled.outbox, unfinished_replace hsettled.unfinished ?_⟩
    intro x hx
    cases List.mem_singleton.mp hx
    exact trivial
  · rw [ht]
    exact ⟨hsettled.outbox, unfinished_replace hsettled.unfinished (by simp)⟩

theorem settled_ofConfig (c : PoolConfig) : (ofConfig c).Settled := by
  constructor
  · rfl
  · intro x hx
    cases hx

/-!
## Runs
-/

def Admits (law : Law) (e : Traffic × Action) : Prop :=
  (e.1.opensLate e.2 = true -> law.late e.1.pool) ∧ forall i, e.2 = .drop i -> law.drops

theorem admits_any (e : Traffic × Action) : Admits .any e :=
  ⟨fun _ => trivial, fun _ _ => trivial⟩

theorem Run.settled {s t : Traffic} {log : Log} (h : Run s log t) (hs : s.Settled) :
    t.Settled := h.invariant settled_step hs

theorem Run.config_eq {s t : Traffic} {log : Log} (h : Run s log t) (hs : s.Settled) :
    t.pool.config = s.pool.config := by
  induction h with
  | done s =>
      rfl
  | @act s t u a log hstep _ ih =>
      rw [ih (settled_step hs hstep), config_step hs hstep]

theorem Run.tally_remains (w : Token -> Nat) {s t : Traffic} {log : Log} (h : Run s log t) :
    tally w t.remains
      = tally w s.remains + (log.map fun e => tally w (e.1.leavings e.2)).sum := by
  induction h with
  | done s =>
      rfl
  | @act s t u a log hstep _ ih =>
      rw [ih, remains_step hstep, tally_add, List.map_cons, List.sum_cons, Nat.add_assoc]

theorem sum_map_toNat {α : Type} (P : α -> Bool) (xs : List α) :
    (xs.map fun x => (P x).toNat).sum = xs.countP P := by
  induction xs with
  | nil =>
      rfl
  | cons x rest ih =>
      rw [List.map_cons, List.sum_cons, ih, List.countP_cons, Nat.add_comm]
      cases P x with
      | true | false =>
          rfl

/-- What every change keeps holds throughout a run, if new connections do not matter. -/
theorem Run.keeps (law : Law) {I : ConnectionPool -> Multiset Token -> Prop}
    (hchange : forall {now : Instant} {p q : ConnectionPool} {A B : Multiset Token}
      (F : Multiset Token), Change law now p A q B -> I p (A + F) -> I q (B + F))
    (hopen : forall {p : ConnectionPool} {A : Multiset Token} (cs : List Connection),
      I p A -> I p (A + raws cs))
    {s t : Traffic} {log : Log} (h : Run s log t) (hlaw : forall e, e ∈ log -> Admits law e)
    (hs : s.Settled) (hI : I s.pool s.held) : I t.pool t.held := by
  induction h with
  | done s =>
      exact hI
  | @act s t u a log hstep _ ih =>
      rcases hlaw (s, a) List.mem_cons_self with ⟨hlate, hdrops⟩
      have hchanges := changes_step hs hlate hdrops hstep
      refine ih ?_ (settled_step hs hstep) (hchanges.invariant hchange (hopen a.arrivals hI))
      intro e he
      exact hlaw e (List.mem_cons_of_mem (s, a) he)

end Traffic
end PoolHealth
