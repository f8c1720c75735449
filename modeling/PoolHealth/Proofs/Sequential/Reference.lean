import PoolHealth.Proofs.Sequential.Driving

/-!
# A pool as a queue

A pool at which one thing happens after another is a queue of idle connections and a list of
borrowed ones.  A connection is lent from the front of the queue and comes back at its end.
Everything else that there is about a pool serves to keep this so when things overlap.
-/

namespace PoolHealth

namespace Surroundings

def attempt (env : Surroundings) (c : PoolConfig) (j : Journal) :
    Journal × Except BackendError Connection :=
  match env.limited c.connectionTimeout j .create (env.creation j) with
  | (j, some r) => (j, r)
  | (j, none) => (j, .error (.timeout c.connectionTimeout))

def probe (env : Surroundings) (c : PoolConfig) (j : Journal) (d : Connection) : Journal × Bool :=
  match env.limited c.validationTimeout j (.validate d) (env.validation j d) with
  | (j, some ok) => (j, ok)
  | (j, none) => (j, false)

/-- Opens a connection: the attempt has that number, and there may be so many after it. -/
def openFrom (env : Surroundings) (c : PoolConfig) (number : Nat) :
    Nat -> Journal -> Journal × Except PoolError Connection
  | 0, j =>
      match env.attempt c j with
      | (j, .ok d) => (j, .ok d)
      | (j, .error e) => (j, .error (.backend c.name e))
  | more + 1, j =>
      match env.attempt c j with
      | (j, .ok d) => (j, .ok d)
      | (j, .error _) =>
          env.openFrom c (number + 1) more (j.pass (env.alarm (Opening.backoff c number)))

def openNew (env : Surroundings) (c : PoolConfig) (j : Journal) :
    Journal × Except PoolError Connection :=
  env.openFrom c 1 (Opening.attempts c - 1) j

end Surroundings

structure Served where
  journal : Journal
  queue : List IdleConnection
  result : Except PoolError Lease

/-- Takes connections from the front of the queue.  Expired ones are put aside, and they are
closed before the first other one is probed.  If that one is good it is lent, and otherwise
it is closed and the search goes on.  At the end of the queue a connection is opened. -/
def Surroundings.serve (env : Surroundings) (c : PoolConfig) :
    List Connection -> List IdleConnection -> Journal -> Served
  | aside, [], j =>
      match env.openNew c (env.closeAll c j aside) with
      | (j, .ok d) => ⟨j, [], .ok { connection := d, createdAt := j.now }⟩
      | (j, .error e) => ⟨j, [], .error e⟩
  | aside, e :: rest, j =>
      if ConnectionPool.isExpired c j.now e then
        env.serve c (aside ++ [e.connection]) rest j
      else
        match env.probe c (env.closeAll c j aside) e.connection with
        | (j, true) => ⟨j, rest, .ok { connection := e.connection, createdAt := e.createdAt }⟩
        | (j, false) => env.serve c [] rest (env.close c j e.connection)

/-!
## Operations
-/

inductive Operation where
  | setUp
  | acquire
  | tryAcquire
  | release (i : Nat)
  | discard (i : Nat)
  | checkup
  /-- Maintenance checks the pool, which was due then. -/
  | tick (due : Instant)
  | elapse (d : Duration)

/-- What an operation tells whoever asked for it.  Nothing is said here about the verdict of
a health check. -/
inductive Answer where
  | nothing
  | switched (r : Except PoolError Unit)
  | lent (r : Except PoolError Lease)

/-- The queue, the borrowed connections, and whether the pool was set up. -/
structure Reference where
  journal : Journal := {}
  ready : Bool := false
  queue : List IdleConnection := []
  held : List Lease := []

namespace Reference

def isFull (c : PoolConfig) (s : Reference) : Bool := s.held.length == c.maxSize.toNat

def giveBack (c : PoolConfig) (s : Reference) (l : Lease) : Reference :=
  if s.ready && !l.broken
      && decide (s.journal.now.nanosSince l.createdAt < c.maxLifetime.nanos) then
    { s with queue := s.queue ++ [⟨l.connection, l.createdAt, s.journal.now⟩] }
  else { s with journal := s.journal.note (.close l.connection) }

/-- The borrower with that number, if there is one, gives back what it has made of its lease. -/
def release (c : PoolConfig) (s : Reference) (i : Nat) (mark : Lease -> Lease) : Reference :=
  match s.held[i]? with
  | some l => { s with held := s.held.eraseIdx i }.giveBack c (mark l)
  | none => s

def lend (env : Surroundings) (c : PoolConfig) (s : Reference) :
    Reference × Except PoolError Lease :=
  let served := env.serve c [] s.queue s.journal
  ({ s with
      journal := served.journal
      queue := served.queue
      held := s.held ++ served.result.toOption.toList }, served.result)

def warm (env : Surroundings) (c : PoolConfig) :
    Nat -> List Connection -> Journal -> Journal × Except PoolError (List Connection)
  | 0, opened, j => (j, .ok opened)
  | n + 1, opened, j =>
      match env.openNew c j with
      | (j, .ok d) => warm env c n (opened ++ [d]) j
      | (j, .error e) => (env.closeAll c j opened, .error e)

def setUp (env : Surroundings) (c : PoolConfig) (s : Reference) :
    Reference × Except PoolError Unit :=
  if s.ready then (s, .ok ())
  else
    match warm env c c.minSize.toNat [] s.journal with
    | (j, .ok opened) =>
        ({ s with
            journal := j
            ready := true
            queue := s.queue ++ opened.map fun d => ⟨d, j.now, j.now⟩ }, .ok ())
    | (j, .error e) => ({ s with journal := j }, .error e)

/-- Opens so many connections that become idle one by one, or fewer if one cannot be opened. -/
def refill (env : Surroundings) (c : PoolConfig) : Nat -> Reference -> Reference
  | 0, s => s
  | n + 1, s =>
      match env.openNew c s.journal with
      | (j, .ok d) =>
          refill env c n { s with journal := j, queue := s.queue ++ [⟨d, j.now, j.now⟩] }
      | (j, .error _) => { s with journal := j }

/-- Lends a connection and takes it back at once, unless all slots are taken. -/
def probe (env : Surroundings) (c : PoolConfig) (s : Reference) : Reference :=
  if s.isFull c then s
  else
    let served := env.serve c [] s.queue s.journal
    let s := { s with journal := served.journal, queue := served.queue }
    match served.result with
    | .ok l => s.giveBack c l
    | .error _ => s

/-- Closes what has expired, brings the pool up to its least size and probes a connection. -/
def checkup (env : Surroundings) (c : PoolConfig) (s : Reference) : Reference :=
  if s.ready then
    let expired := s.queue.filter (ConnectionPool.isExpired c s.journal.now)
    let live := s.queue.filter fun e => !ConnectionPool.isExpired c s.journal.now e
    let s := { s with
      journal := env.closeAll c s.journal (expired.map (·.connection))
      queue := live }
    (refill env c (c.minSize.toNat - (s.held.length + s.queue.length)) s).probe env c
  else s

def perform (env : Surroundings) (c : PoolConfig) (s : Reference) : Operation -> Reference × Answer
  | .setUp =>
      let (s, r) := s.setUp env c
      (s, .switched r)
  | .acquire =>
      if !s.ready then (s, .lent (.error (.notInitialized c.name)))
      else if s.isFull c then
        ({ s with journal := s.journal.pass (env.alarm c.connectionTimeout) },
          .lent (.error (.connectionTimeout c.name c.connectionTimeout)))
      else
        let (s, r) := s.lend env c
        (s, .lent r)
  | .tryAcquire =>
      if !s.ready then (s, .lent (.error (.notInitialized c.name)))
      else if s.isFull c then (s, .lent (.error (.exhausted c.name)))
      else
        let (s, r) := s.lend env c
        (s, .lent r)
  | .release i => (s.release c i id, .nothing)
  | .discard i => (s.release c i fun l => { l with broken := true }, .nothing)
  | .checkup | .tick _ => (s.checkup env c, .nothing)
  | .elapse d => ({ s with journal := s.journal.pass d }, .nothing)

def performAll (env : Surroundings) (c : PoolConfig) (s : Reference) :
    List Operation -> Reference × List Answer
  | [] => (s, [])
  | o :: rest =>
      let (s, a) := s.perform env c o
      let (s, answers) := s.performAll env c rest
      (s, a :: answers)

/-!
## Only borrowers change what is borrowed
-/

variable (env : Surroundings) (c : PoolConfig) (s : Reference)

theorem held_giveBack (l : Lease) : (s.giveBack c l).held = s.held := by
  unfold giveBack
  split
  · rfl
  · rfl

theorem held_setUp : (s.setUp env c).1.held = s.held := by
  unfold setUp
  split
  · rfl
  · split
    · rfl
    · rfl

theorem ready_refill (n : Nat) : (s.refill env c n).ready = s.ready := by
  induction n generalizing s with
  | zero =>
      rfl
  | succ n ih =>
      unfold refill
      split
      · exact ih _
      · rfl

theorem held_refill (n : Nat) : (s.refill env c n).held = s.held := by
  induction n generalizing s with
  | zero =>
      rfl
  | succ n ih =>
      unfold refill
      split
      · exact ih _
      · rfl

theorem held_probe : (s.probe env c).held = s.held := by
  unfold probe
  split
  · rfl
  · dsimp only
    split
    · exact held_giveBack c _ _
    · rfl

theorem held_checkup : (s.checkup env c).held = s.held := by
  unfold checkup
  split
  · rw [held_probe, held_refill]
  · rfl

end Reference

/-!
## Who is turned away
-/

variable {env : Surroundings} {c : PoolConfig} {j : Journal}

theorem Surroundings.openFrom_eq_error {number more : Nat} {e : PoolError}
    (h : (env.openFrom c number more j).2 = .error e) :
    exists cause, e = .backend c.name cause := by
  induction more generalizing number j with
  | zero =>
      unfold openFrom at h
      split at h
      · cases h
      · cases h
        exact ⟨_, rfl⟩
  | succ more ih =>
      unfold openFrom at h
      split at h
      · cases h
      · exact ih h

/-- Nobody is turned away after the search for a connection has begun, unless the backend
fails. -/
theorem Surroundings.serve_eq_error {aside : List Connection} {queue : List IdleConnection}
    {e : PoolError} (h : (env.serve c aside queue j).result = .error e) :
    exists cause, e = .backend c.name cause := by
  induction queue generalizing aside j with
  | nil =>
      unfold serve at h
      split at h
      · cases h
      · rename_i hopen
        cases h
        exact openFrom_eq_error (congrArg Prod.snd hopen)
  | cons e rest ih =>
      unfold serve at h
      split at h
      · exact ih h
      · split at h
        · cases h
        · exact ih h

namespace Reference

variable {s : Reference}

theorem isFull_iff : s.isFull c = true <-> s.held.length = c.maxSize.toNat := by
  unfold isFull
  exact beq_iff_eq

theorem lend_ne_error {e : PoolError} (h : forall cause, e ≠ .backend c.name cause) :
    (s.lend env c).2 ≠ .error e := by
  intro heq
  rcases Surroundings.serve_eq_error heq with ⟨cause, hcause⟩
  exact h cause hcause

theorem answer_tryAcquire_iff (hready : s.ready = true) :
    (s.perform env c .tryAcquire).2 = .lent (.error (.exhausted c.name)) <->
      s.held.length = c.maxSize.toNat := by
  rw [← isFull_iff]
  cases hfull : s.isFull c with
  | true =>
      simp [perform, hready, hfull]
  | false =>
      have hserved : (s.lend env c).2 ≠ .error (.exhausted c.name) := by
        apply lend_ne_error
        intro cause heq
        cases heq
      simpa [perform, hready, hfull] using hserved

/-- Whoever waits gives up if and only if all slots are taken. -/
theorem answer_acquire_iff (hready : s.ready = true) :
    (s.perform env c .acquire).2 =
        .lent (.error (.connectionTimeout c.name c.connectionTimeout)) <->
      s.held.length = c.maxSize.toNat := by
  rw [← isFull_iff]
  cases hfull : s.isFull c with
  | true =>
      simp [perform, hready, hfull]
  | false =>
      have hserved : (s.lend env c).2 ≠
          .error (.connectionTimeout c.name c.connectionTimeout) := by
        apply lend_ne_error
        intro cause heq
        cases heq
      simpa [perform, hready, hfull] using hserved

theorem journal_acquire_of_full (hready : s.ready = true)
    (hfull : s.held.length = c.maxSize.toNat) :
    (s.perform env c .acquire).1.journal = s.journal.pass (env.alarm c.connectionTimeout) := by
  rw [← isFull_iff] at hfull
  simp [perform, hready, hfull]

end Reference
end PoolHealth
