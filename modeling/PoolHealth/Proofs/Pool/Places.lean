import PoolHealth.Proofs.Pool.Closing

/-!
# Where a connection is

A connection that the backend has opened is idle, or a borrower has it, or a checkout has
it, or it is to be closed, or it waits for the pool to be set up; or nobody has it any
more.  It is in one of these places only, because tokens are never copied.

The backend is asked to close a connection when somebody begins to wait for that.  A
connection that it was asked for leaves a trace which never goes away, and there is one
trace at most.
-/

namespace PoolHealth

open ConnectionPool Token

variable {d : Connection}

/-!
## What a party has
-/

namespace Checkout

def closings : Checkout -> List Connection
  | closingExpired c rest _ => c :: rest
  | closingInvalid c => [c]
  | validating _ | opening _ => []

theorem tally_names (k : Checkout) :
    tally (names d) k.stake + tally (names d) k.underway
      = (k.connection?.toList ++ k.closings).count d := by
  cases k with
  | closingExpired c rest candidate =>
      cases candidate with
      | none =>
          simp [stake, underway, connection?, closings, List.count_cons]
      | some e =>
          simp [stake, underway, connection?, closings, List.count_cons]
          omega
  | closingInvalid c | validating l =>
      simp [stake, underway, connection?, closings, List.count_singleton]
  | opening o =>
      rfl

end Checkout

namespace Checkup

def closings : Checkup -> List Connection
  | evicting c rest => c :: rest
  | refilling _ => []
  | probing k => k.closings

end Checkup

namespace WarmUp

def closings : WarmUp -> List Connection
  | rollingBack c rest _ => c :: rest
  | queued _ | opening _ _ => []

def warmed : WarmUp -> List Connection
  | opening opened _ => opened
  | queued _ | rollingBack _ _ _ => []

theorem tally_names (k : WarmUp) :
    tally (names d) k.stake + tally (names d) k.underway = (k.closings ++ k.warmed).count d := by
  cases k with
  | queued t =>
      rfl
  | opening opened o =>
      simp [stake, underway, closings, warmed]
  | rollingBack c rest e =>
      simp [stake, underway, closings, warmed, List.count_cons]

end WarmUp

namespace ShutDown

def closings : ShutDown -> List Connection
  | closing c rest _ => c :: rest
  | queued _ | awaitingMaintenance => []

theorem tally_names (k : ShutDown) :
    tally (names d) k.stake + tally (names d) k.underway = k.closings.count d := by
  cases k with
  | queued t | awaitingMaintenance =>
      rfl
  | closing c rest failure =>
      simp [stake, underway, closings, List.count_cons]

end ShutDown

namespace Party

def borrowed : Party -> List Connection
  | borrower l => [l.connection]
  | caller _ | maintainer _ _ | closer _ | finisher _ => []

def checkedOut (x : Party) : List Connection := (x.checkout?.bind Checkout.connection?).toList

def closings : Party -> List Connection
  | caller (.acquire (.queued _ _)) => []
  | caller (.acquire (.checkingOut _ k)) | caller (.tryAcquire k) => k.closings
  | caller (.checkup k) | maintainer _ (.checking _ k) => k.closings
  | caller (.warmUp k) => k.closings
  | caller (.shutDown k) => k.closings
  | closer c | finisher c => [c]
  | maintainer _ (.resting _) | borrower _ => []

def warmed : Party -> List Connection
  | caller (.warmUp k) => k.warmed
  | caller (.acquire _) | caller (.tryAcquire _) | caller (.checkup _) | caller (.shutDown _)
  | maintainer _ _ | borrower _ | closer _ | finisher _ => []

def connections (x : Party) : List Connection :=
  x.borrowed ++ x.checkedOut ++ x.closings ++ x.warmed

end Party

theorem Checkup.tally_names (k : Checkup) :
    tally (names d) k.stake + tally (names d) k.underway
      = ((k.checkout?.bind Checkout.connection?).toList ++ k.closings).count d := by
  cases k with
  | evicting c rest =>
      simp [stake, underway, checkout?, closings, List.count_cons]
  | refilling o =>
      rfl
  | probing k =>
      have hcheckout := k.tally_names (d := d)
      simpa [stake, underway, checkout?, closings] using hcheckout

namespace Party

theorem tally_names_tokens (x : Party) : tally (names d) x.tokens = x.connections.count d := by
  have hnone : forall cs : List Connection, cs.count d = (cs ++ []).count d := by
    intro cs
    rw [List.append_nil]
  unfold tokens
  rw [tally_add]
  cases x with
  | caller call =>
      cases call with
      | acquire k =>
          cases k with
          | queued t started =>
              rfl
          | checkingOut started k =>
              exact k.tally_names.trans (hnone _)
      | tryAcquire k =>
          exact k.tally_names.trans (hnone _)
      | checkup k =>
          exact k.tally_names.trans (hnone _)
      | warmUp k =>
          exact k.tally_names
      | shutDown k =>
          exact k.tally_names.trans (hnone _)
  | maintainer n m =>
      cases m with
      | resting due =>
          rfl
      | checking due k =>
          exact k.tally_names.trans (hnone _)
  | borrower l =>
      show _ = [l.connection].count d
      simp [stake, underway, List.count_singleton]
  | closer c | finisher c =>
      show _ = [c].count d
      simp [stake, underway, List.count_singleton]

theorem tally_names_stock (xs : List Party) :
    tally (names d) (stock xs)
      = (xs.flatMap borrowed).count d + (xs.flatMap checkedOut).count d
        + (xs.flatMap closings).count d + (xs.flatMap warmed).count d := by
  induction xs with
  | nil =>
      rfl
  | cons x rest ih =>
      rw [stock_cons, tally_add, tally_names_tokens, ih]
      simp only [connections, List.flatMap_cons, List.count_append]
      omega

end Party

namespace Traffic

def borrowed (s : Traffic) : List Connection := s.parties.flatMap Party.borrowed

def checkedOut (s : Traffic) : List Connection := s.parties.flatMap Party.checkedOut

def closings (s : Traffic) : List Connection := s.parties.flatMap Party.closings

def warmed (s : Traffic) : List Connection := s.parties.flatMap Party.warmed

/-- All connections in all places, each as often as it is there. -/
def connections (s : Traffic) : List Connection :=
  s.pool.idle.map (·.connection) ++ s.borrowed ++ s.checkedOut ++ s.closings ++ s.warmed

variable {c : PoolConfig} {s t : Traffic} {log : Log}

theorem count_connections (s : Traffic) (d : Connection) :
    s.connections.count d = s.pool.idleCount d + tally (names d) (Party.stock s.parties) := by
  rw [Party.tally_names_stock]
  simp only [connections, borrowed, checkedOut, closings, warmed, idleCount, List.count_append]
  omega

/-- A connection that was opened is in one place, or nobody has it any more. -/
theorem Run.count_connections (h : Run (ofConfig c) log t) (d : Connection) :
    t.connections.count d + tally (names d) t.remains = t.opened.count d := by
  have hnamed := h.mentions_eq d
  rw [mentions, (h.settled (settled_ofConfig c)).dues_eq_nil, List.count_nil, held_eq,
    tally_add] at hnamed
  rw [t.count_connections]
  omega

theorem Run.nodup_connections (h : Run (ofConfig c) log t) : t.connections.Nodup := by
  rw [List.nodup_iff_count_le_one]
  intro d
  have hplaces := h.count_connections d
  have honce := List.nodup_iff_count_le_one.mp h.nodup_opened d
  omega

theorem Run.mem_opened_of_mem_connections (h : Run (ofConfig c) log t)
    (hd : d ∈ t.connections) : d ∈ t.opened := by
  have hplaces := h.count_connections d
  have hsome := List.count_pos_iff.mpr hd
  apply List.count_pos_iff.mp
  omega

end Traffic

/-!
## Requests to close a connection
-/

namespace Token

@[simp] def traces (c : Connection) : Token -> Nat
  | retired d .passed | raw d .passed => if d = c then 1 else 0
  | retired _ .pending | retired _ .lost | raw _ .pending | raw _ .lost | queued | slot _
  | lent _ | forgotten _ | lock _ | checking => 0

theorem tally_traces_le (held : Multiset Token) :
    tally (traces d) held ≤ tally (names d) held := by
  apply tally_le_of_le
  intro t
  cases t with
  | retired e f | raw e f =>
      cases f with
      | pending | passed | lost =>
          simp
  | queued | slot u | lent e | forgotten e | lock u | checking =>
      simp

end Token

structure Traced (d : Connection) (stake underway remains : Multiset Token) : Prop where
  stake : tally (traces d) stake = 0
  underway : tally (traces d) underway = tally (names d) underway
  remains : tally (traces d) remains = 0

theorem Checkout.traced (k : Checkout) : Traced d k.stake k.underway k.remains := by
  cases k with
  | closingExpired c rest candidate =>
      cases candidate with
      | none | some e =>
          constructor <;> simp [stake, underway, remains]
  | closingInvalid c | validating l | opening o =>
      constructor <;> rfl

theorem Acquire.traced (k : Acquire) : Traced d k.stake k.underway k.remains := by
  cases k with
  | queued t started =>
      constructor <;> rfl
  | checkingOut started k =>
      exact k.traced

theorem Checkup.traced (k : Checkup) : Traced d k.stake k.underway k.remains := by
  cases k with
  | evicting c rest =>
      constructor <;> simp [stake, underway, remains]
  | refilling o =>
      constructor <;> rfl
  | probing k =>
      refine ⟨?_, k.traced.underway, k.traced.remains⟩
      simp [stake, k.traced.stake]

theorem WarmUp.traced (k : WarmUp) : Traced d k.stake k.underway k.remains := by
  cases k with
  | queued t =>
      constructor <;> rfl
  | opening opened o | rollingBack c rest e =>
      constructor <;> simp [stake, underway, remains]

theorem ShutDown.traced (k : ShutDown) : Traced d k.stake k.underway k.remains := by
  cases k with
  | queued t | awaitingMaintenance =>
      constructor <;> rfl
  | closing c rest failure =>
      constructor <;> simp [stake, underway, remains]

namespace Party

theorem traced (x : Party) : Traced d x.stake x.underway x.remains := by
  cases x with
  | caller call =>
      cases call with
      | acquire k =>
          exact k.traced
      | tryAcquire k =>
          exact k.traced
      | checkup k =>
          exact k.traced
      | warmUp k =>
          exact k.traced
      | shutDown k =>
          exact k.traced
  | maintainer n m =>
      cases m with
      | resting due =>
          constructor <;> rfl
      | checking due k =>
          exact k.traced
  | borrower l | closer c =>
      constructor <;> rfl
  | finisher c =>
      constructor <;> simp [stake, underway, remains]

def awaitsClose (d : Connection) (c : PoolConfig) (x : Party) : Bool :=
  (x.await? c).any fun a => a.isClose d

theorem tally_traces_tokens (c : PoolConfig) (x : Party) :
    tally (traces d) x.tokens = (x.awaitsClose d c).toNat := by
  unfold tokens
  rw [tally_add, x.traced.stake, x.traced.underway, x.tally_names_underway (c := c), Nat.zero_add]
  rfl

theorem tally_traces_stock (c : PoolConfig) (xs : List Party) :
    tally (traces d) (stock xs) = xs.countP (awaitsClose d c) := by
  induction xs with
  | nil =>
      rfl
  | cons x rest ih =>
      rw [stock_cons, tally_add, tally_traces_tokens c, ih, List.countP_cons, Nat.add_comm]
      cases x.awaitsClose d c with
      | true | false =>
          rfl

end Party

namespace Traffic

variable {c : PoolConfig} {s t : Traffic} {log : Log}

/-- Those who begin to wait with an action: a call that begins, or one that goes on. -/
def newcomers (s : Traffic) : Action -> List Party
  | .call request => Party.ofProgress (PoolCall.start s.pool s.now request).2
  | .reply i r => ((s.parties[i]?.bind (s.proceed r)).map Prod.snd).getD []
  | .elapse _ | .drop _ | .giveBack _ _ | .markBroken _ | .retire _ => []

def requests (d : Connection) (s : Traffic) (a : Action) : Nat :=
  (s.newcomers a).countP (Party.awaitsClose d s.pool.config)

theorem tally_traces_stranded (s : Traffic) (l : Lease) (background : Bool) :
    tally (traces d) (s.stranded l background) = 0 := by
  unfold stranded
  split
  · rfl
  · rfl

theorem tally_traces_adopt (s : Traffic) (p : ConnectionPool) :
    tally (traces d) (s.adopt p).held = tally (traces d) s.held := by
  rw [adopt_held, tally_add]
  simp

/-- Each request to close a connection leaves a trace, and nothing else does. -/
theorem tally_traces_step {a : Action} (h : s.step a = some t) :
    tally (traces d) t.held = tally (traces d) s.held + s.requests d a := by
  rcases step_cases h with
    ⟨e, rfl, rfl⟩ | ⟨request, rfl, rfl⟩ | ⟨i, r, x, p, xs, rfl, hx, hproceed, rfl⟩ |
    ⟨i, x, p, rfl, hx, habandon, rfl⟩ | ⟨i, background, l, rfl, hx, rfl⟩ | ⟨i, l, rfl, hx, rfl⟩ |
    ⟨i, n, due, rfl, hx, htold, rfl⟩
  · rfl
  · rw [tally_traces_adopt, held_eq, held_eq, Party.stock_append, tally_add, tally_add, tally_add,
      Party.tally_traces_stock s.pool.config (Party.ofProgress _)]
    simp only [requests, newcomers]
    omega
  · rcases exists_held_eq hx with ⟨F, hheld, hreplace⟩
    have hnew : s.requests d (.reply i r) = tally (traces d) (Party.stock xs) := by
      rw [Party.tally_traces_stock s.pool.config]
      simp [requests, newcomers, hx, hproceed]
    have hafter := congrArg (tally (traces d)) (stock_replace_add (hreplace xs) x.underway)
    rw [tally_traces_adopt, held_eq, hheld, hnew]
    refine hafter.trans ?_
    simp only [Party.tokens, tally_add, x.traced.stake]
    omega
  · rcases exists_held_eq hx with ⟨F, hheld, hreplace⟩
    have hafter := congrArg (tally (traces d))
      (stock_replace_add (hreplace []) (x.underway + x.remains))
    rw [tally_traces_adopt, held_eq, hheld]
    show tally _ (Party.stock (s.replace i []).parties + (s.remains + x.underway + x.remains)) = _
    rw [add_assoc s.remains]
    refine hafter.trans ?_
    simp only [Party.tokens, tally_add, Party.stock_nil, tally_zero, x.traced.stake,
      x.traced.remains, requests, newcomers, List.countP_nil]
    omega
  · rcases exists_held_eq hx with ⟨F, hheld, hreplace⟩
    have hafter := congrArg (tally (traces d))
      (stock_replace_add (hreplace []) (s.stranded l background))
    rw [tally_traces_adopt, held_eq, hheld]
    refine hafter.trans ?_
    simp only [tally_add, tally_traces_stranded, Party.tokens, Party.stock_nil]
    simp [Party.stake, Party.underway, requests, newcomers]
  · rcases exists_held_eq hx with ⟨F, hheld, hreplace⟩
    rw [hreplace, hheld, Party.stock_cons, Party.stock_nil, add_zero]
    rfl
  · rcases exists_held_eq hx with ⟨F, hheld, hreplace⟩
    rw [hreplace, hheld]
    rfl

theorem Run.tally_traces (h : Run s log t) :
    tally (traces d) t.held
      = tally (traces d) s.held + (log.map fun e => e.1.requests d e.2).sum := by
  induction h with
  | done s =>
      rfl
  | @act s t u a log hstep _ ih =>
      rw [ih, tally_traces_step hstep, List.map_cons, List.sum_cons, Nat.add_assoc]

theorem Run.sum_requests_le_one (h : Run (ofConfig c) log t) (d : Connection) :
    (log.map fun e => e.1.requests d e.2).sum ≤ 1 := by
  have htraces := h.tally_traces (d := d)
  have hnames := tally_traces_le t.held (d := d)
  have hnamed := h.mentions_eq d
  have honce := List.nodup_iff_count_le_one.mp h.nodup_opened d
  unfold mentions at hnamed
  omega

end Traffic
end PoolHealth
