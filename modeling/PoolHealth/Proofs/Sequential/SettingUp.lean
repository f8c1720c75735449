import PoolHealth.Proofs.Sequential.Attempts
import PoolHealth.Proofs.Sequential.Calls

/-!
# Setting up alone

Whoever sets a pool up alone gets the lifecycle lock at once.  In the end the pool has its
least size, or it is as it was.
-/

namespace PoolHealth

open ConnectionPool Token

variable {now : Instant} {p q : ConnectionPool} {c : PoolConfig}
variable {env : Surroundings} {s : Reference} {j k l : Journal}

theorem Shows.phase_of_not_ready (h : Shows c p 0 s) (hready : s.ready = false) :
    p.phase = .uninitialized ∧ s.held = [] ∧ s.queue = [] := by
  have hphased := h.fit.sound.phased
  have horder := h.fit.sound.orderly
  have hclosed := hphased.closed
  have hready' := h.ready.trans hready
  have hphase : p.phase = .uninitialized := by
    cases hphase : p.phase with
    | uninitialized =>
        rfl
    | initializing =>
        have hwarming := horder.initializing hphase
        rw [zero_add, tally_loans warming 0 (fun _ => rfl), Nat.zero_mul] at hwarming
        contradiction
    | ready =>
        rw [isReady, hphase] at hready'
        cases hready'
    | shuttingDown =>
        have hshutting := horder.shuttingDown hphase
        rw [zero_add, tally_loans shutting 0 (fun _ => rfl), Nat.zero_mul] at hshutting
        contradiction
    | closed =>
        rw [h.opened] at hclosed
        cases hclosed hphase
  rcases horder.unused (Or.inl hphase) with ⟨hguests, hidle⟩
  rw [zero_add, tally_loans guests 1 (fun _ => rfl), Nat.one_mul] at hguests
  exact ⟨hphase, List.length_eq_zero_iff.mp hguests, h.queue.symm.trans hidle⟩

namespace Surroundings

/-- The openings for a pool that is to have so many connections more, each by what had happened
before it.  There is none after one that fails. -/
def openings (env : Surroundings) (c : PoolConfig) : Nat -> Journal -> List Journal
  | 0, _ => []
  | n + 1, j =>
      match env.openNew c j with
      | (k, .ok _) => j :: env.openings c n k
      | (_, .error _) => [j]

def allFailures (env : Surroundings) (c : PoolConfig) (n : Nat) (j : Journal) : List Instant :=
  (env.openings c n j).flatMap (env.failures c)

end Surroundings

namespace WarmUp

def machine : Machine WarmUp (Except PoolError Unit) where
  await := fun c k => k.await c
  step := step

def proceed (opened : List Connection) (p : ConnectionPool) (now : Instant) :
    Except PoolError Connection -> ConnectionPool × Progress WarmUp (Except PoolError Unit)
  | .ok d => goOn p now (opened ++ [d])
  | .error e => rollBack p e opened

def undo (e : PoolError) (p : ConnectionPool) (_ : Instant) :
    ConnectionPool × Progress WarmUp (Except PoolError Unit) :=
  finish (p.setPhase .uninitialized) (.error e)

theorem opening_within (opened : List Connection) :
    Opening.machine.Within machine (opening opened) (proceed opened) where
  await := fun _ _ => rfl
  step := by
    intro p now o r
    show step p now (opening opened o) r =
      Machine.resume (opening opened) (proceed opened) now (o.step p now r)
    cases hstep : o.step p now r with
    | mk q progress =>
        cases progress with
        | waiting o' =>
            simp only [step, hstep, Machine.resume]
        | done result =>
            cases result with
            | ok d | error e =>
                simp only [step, hstep, Machine.resume, proceed]

theorem rollBack_eq (p : ConnectionPool) (now : Instant) (e : PoolError) (ds : List Connection) :
    rollBack p e ds = Machine.closeThen (fun d rest => rollingBack d rest e) (undo e) p now ds := by
  cases ds with
  | nil | cons d rest =>
      rfl

theorem closes (e : PoolError) :
    machine.Closes (fun d rest => rollingBack d rest e) (undo e) where
  await := fun _ _ _ => rfl
  step := by
    intro p now d rest r hfits
    rw [← rollBack_eq]
    cases r with
    | timedOut | closed result =>
        rfl
    | stirred | created result | validated ok =>
        cases hfits

def conclusion (p : ConnectionPool) (now : Instant) :
    Except PoolError (List Connection) -> ConnectionPool × Except PoolError Unit
  | .ok opened => ((furnish p now opened).releaseLock, .ok ())
  | .error e => ((p.setPhase .uninitialized).releaseLock, .error e)

/-- The connections that are missing are opened, one after another. -/
theorem drives_goOn (env : Surroundings) (hconfig : p.config = c) (n : Nat)
    (opened : List Connection) (hmissing : opened.length + n = c.minSize.toNat) (j : Journal) :
    machine.Drives env j (goOn p j.now opened) (Reference.warm env c n opened j).1
      (conclusion (p.recordErrors (env.allFailures c n j)) (Reference.warm env c n opened j).1.now
        (Reference.warm env c n opened j).2) := by
  -- By induction on how many connections are missing, whatever has been opened so far.
  induction n generalizing p opened j with
  | zero =>
      unfold goOn
      rw [hconfig, if_neg (by omega)]
      exact .done _ _ _
  | succ n ih =>
      have hopening := Opening.drives_openNew env p j
      have hgoOn : goOn p j.now opened = (p, .waiting (opening opened .first)) := by
        unfold goOn
        rw [hconfig, if_pos (by omega)]
      have hconfig' := (Erred.recordErrors p (env.failures c j)).config_eq.trans hconfig
      rw [hconfig] at hopening
      rw [hgoOn]
      unfold Reference.warm Surroundings.allFailures Surroundings.openings
      cases hnew : env.openNew c j with
      | mk k result =>
          rw [hnew] at hopening
          cases result with
          | ok d =>
              have hfewer : (opened ++ [d]).length + n = c.minSize.toNat := by
                rw [List.length_append, List.length_singleton]
                omega
              have hrest := ih hconfig' (opened ++ [d]) hfewer k
              rw [List.flatMap_cons, recordErrors_append]
              exact Machine.Drives.within (opening_within opened) hopening hrest
          | error e =>
              refine Machine.Drives.within (opening_within opened) hopening ?_
              show machine.Drives env k (rollBack _ e opened) _ _
              rw [rollBack_eq _ k.now]
              apply Machine.Drives.closeThen (closes e)
              rw [hconfig']
              simp only [List.flatMap_cons, List.flatMap_nil, List.append_nil]
              exact .done _ _ _

theorem length_warm {n : Nat} {opened ds : List Connection}
    (h : Reference.warm env c n opened j = (k, .ok ds)) : ds.length = opened.length + n := by
  induction n generalizing opened j with
  | zero =>
      cases h
      rfl
  | succ n ih =>
      unfold Reference.warm at h
      cases hnew : env.openNew c j with
      | mk i result =>
          rw [hnew] at h
          cases result with
          | error e =>
              cases h
          | ok d =>
              rw [ih h, List.length_append, List.length_singleton]
              omega

def taken : Semaphore := { Semaphore.lock with free := 0 }

theorem releaseLock_of_taken (h : p.lifecycle = taken) :
    p.releaseLock = { p with lifecycle := .lock } := by
  rw [releaseLock_eq, h]
  simp [taken, Semaphore.successor?, Semaphore.release, Semaphore.lock, Semaphore.ofPermits]

def locked (p : ConnectionPool) : ConnectionPool := { p with lifecycle := taken }

def warming (p : ConnectionPool) : ConnectionPool := (locked p).setPhase .initializing

theorem shows_warming (h : Shows c p 0 s) (hlock : p.lifecycle = .lock) (hready : s.ready = false) :
    Shows c (warming p) {.lock .warming} s := by
  have htaken : p.lifecycle.tryTake = .taken taken := by
    rw [hlock]
    rfl
  have hphase := (h.phase_of_not_ready hready).1
  have hfit := h.fit
  rw [zero_add] at hfit
  have hlocked := hfit.gain ⟨0⟩ (Change.lock htaken)
  refine ⟨h.config, hready.symm, h.queue, hlocked.change ⟨0⟩ (Change.warm ?_ ?_), h.opened,
    h.nobody⟩
  · simp [locked, hphase]
  · simp [locked, hphase]

theorem shows_erred (h : Shows c p {.lock .warming} s) (herred : Erred p q) :
    Shows c q {.lock .warming} s :=
  h.serves herred.serves rfl (herred.idle_eq.trans h.queue) (herred.fit h.fit)

theorem shows_furnished (h : Shows c p {.lock .warming} s) (hlock : p.lifecycle = taken)
    {ds : List Connection} (hfew : ds.length ≤ c.minSize.toNat) :
    Shows c (furnish p k.now ds).releaseLock 0
        { s with
          journal := k
          ready := true
          queue := s.queue ++ ds.map fun d => ⟨d, k.now, k.now⟩ } ∧
      (furnish p k.now ds).releaseLock.dues = p.dues ∧
      (furnish p k.now ds).releaseLock.lifecycle = .lock := by
  rw [← h.config] at hfew
  have hfit := h.fit.add_raws ds
  rw [add_right_comm] at hfit
  have hwarmed := hfit.change k.now (Change.warmed hfew)
  have hunlocked := hwarmed.lose k.now (Change.unlock _)
  have hlocked : (furnish p k.now ds).lifecycle = taken := by
    unfold furnish
    rw [foldl_recordCreation]
    exact hlock
  rw [releaseLock_of_taken hlocked] at hunlocked ⊢
  unfold furnish at hunlocked ⊢
  rw [foldl_recordCreation] at hunlocked ⊢
  refine ⟨⟨h.config, rfl, ?_, (zero_add (loans s.held)).symm ▸ hunlocked, h.opened, h.nobody⟩,
    ?_, rfl⟩
  · show p.idle ++ _ = s.queue ++ _
    rw [h.queue]
  · simp [dues, emit, PoolEvent.dues]

theorem shows_undone (h : Shows c p {.lock .warming} s) (hlock : p.lifecycle = taken)
    (hready : s.ready = false) :
    Shows c (p.setPhase .uninitialized).releaseLock 0 { s with journal := k } ∧
      (p.setPhase .uninitialized).releaseLock.dues = p.dues ∧
      (p.setPhase .uninitialized).releaseLock.lifecycle = .lock := by
  have hcooled := h.fit.change k.now (Change.cooled p)
  have hunlocked := hcooled.lose k.now (Change.unlock _)
  have hlocked : (p.setPhase .uninitialized).lifecycle = taken := hlock
  rw [releaseLock_of_taken hlocked] at hunlocked ⊢
  exact ⟨⟨h.config, hready.symm, h.queue, (zero_add (loans s.held)).symm ▸ hunlocked, h.opened,
    h.nobody⟩, rfl, rfl⟩

theorem enter_of_ready (h : p.phase = .ready) : enter p now = (p.releaseLock, .done (.ok ())) := by
  unfold enter
  rw [h]
  rfl

theorem drives_start (env : Surroundings) (h : Shows c p 0 s) (hlock : p.lifecycle = .lock)
    (hdues : p.dues = []) :
    exists q,
      machine.Drives env s.journal (start p s.journal.now) (s.setUp env c).1.journal
        (q, (s.setUp env c).2) ∧
      Shows c q 0 (s.setUp env c).1 ∧ q.dues = [] ∧ q.lifecycle = .lock := by
  have hstart : start p s.journal.now = enter (locked p) s.journal.now := by
    unfold start
    rw [hlock]
    rfl
  rw [hstart]
  unfold Reference.setUp
  by_cases hready : s.ready = true
  · rw [if_pos hready]
    have hphase : (locked p).phase = .ready := Orderly.phase_eq_ready (h.ready.trans hready)
    have hreleased : (locked p).releaseLock = p := by
      rw [releaseLock_of_taken rfl, ← hlock]
      rfl
    rw [enter_of_ready hphase, hreleased]
    exact ⟨p, .done _ _ _, h, hdues, hlock⟩
  · rw [if_neg hready]
    have hnot : s.ready = false := Bool.eq_false_iff.mpr hready
    have hphase : (locked p).phase = .uninitialized := (h.phase_of_not_ready hnot).1
    have henter : enter (locked p) s.journal.now = goOn (warming p) s.journal.now [] := by
      unfold enter
      rw [hphase]
      rfl
    have hdrives := drives_goOn (p := warming p) env h.config c.minSize.toNat [] (Nat.zero_add _)
      s.journal
    generalize hq : (warming p).recordErrors (env.allFailures c c.minSize.toNat s.journal) = q
      at hdrives
    have herred : Erred (warming p) q := by
      rw [← hq]
      exact .recordErrors _ _
    have hshows := shows_erred (shows_warming h hlock hnot) herred
    have hlocked : q.lifecycle = taken := herred.serves.lifecycle
    have hdues' : q.dues = [] := herred.dues_eq.trans hdues
    rw [henter]
    cases hwarm : Reference.warm env c c.minSize.toNat [] s.journal with
    | mk k result =>
        rw [hwarm] at hdrives
        cases result with
        | ok ds =>
            have hfew : ds.length ≤ c.minSize.toNat := by
              rw [length_warm hwarm, List.length_nil, Nat.zero_add]
            rcases shows_furnished (k := k) hshows hlocked hfew with ⟨hfurnished, hsame, hlock'⟩
            exact ⟨_, hdrives, hfurnished, hsame.trans hdues', hlock'⟩
        | error e =>
            rcases shows_undone (k := k) hshows hlocked hnot with ⟨hundone, hsame, hlock'⟩
            exact ⟨_, hdrives, hundone, hsame.trans hdues', hlock'⟩

end WarmUp
end PoolHealth
