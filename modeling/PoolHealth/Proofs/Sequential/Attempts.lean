import PoolHealth.Proofs.Pool.RecentErrors
import PoolHealth.Proofs.Sequential.Checkouts

/-!
# Attempts to open a connection

What becomes of the opening of a connection is settled by what the backend would answer if it
were asked again and again.  The first attempt that goes well is the last one that is made, unless
no more are allowed before that.  Between two attempts there is a pause that doubles each time,
though not for ever.
-/

namespace PoolHealth

open ConnectionPool

structure Attempt where
  begun : Journal
  ended : Journal
  answer? : Option (Except BackendError Connection)

namespace Attempt

def isGood (a : Attempt) : Bool :=
  match a.answer? with
  | some (.ok _) => true
  | some (.error _) | none => false

/-- What the attempt comes to; without an answer it took too long. -/
def result (c : PoolConfig) (a : Attempt) : Except BackendError Connection :=
  a.answer?.getD (.error (.timeout c.connectionTimeout))

def outcome (c : PoolConfig) (a : Attempt) : Except PoolError Connection :=
  (a.result c).mapError (.backend c.name)

variable {c : PoolConfig} {a : Attempt}

theorem outcome_of_answer {r : Except BackendError Connection} (h : a.answer? = some r) :
    a.outcome c = r.mapError (.backend c.name) := by
  unfold outcome result
  rw [h]
  rfl

theorem exists_result_of_good (h : a.isGood = true) : exists d, a.result c = .ok d := by
  unfold isGood at h
  unfold result
  split at h
  · rename_i d hanswer
    rw [hanswer]
    exact ⟨d, rfl⟩
  · cases h
  · cases h

theorem exists_result_of_not_good (h : a.isGood = false) : exists e, a.result c = .error e := by
  unfold isGood at h
  unfold result
  split at h
  · cases h
  · rename_i e hanswer
    rw [hanswer]
    exact ⟨e, rfl⟩
  · rename_i hanswer
    rw [hanswer]
    exact ⟨_, rfl⟩

end Attempt

namespace Surroundings

variable (env : Surroundings) (c : PoolConfig) (j : Journal)

def attemptAt : Attempt where
  begun := j
  ended := (env.limited c.connectionTimeout j .create (env.creation j)).1
  answer? := (env.limited c.connectionTimeout j .create (env.creation j)).2

/-- The attempt that would be made after so many others, if all of them failed. -/
def nthAttempt : Nat -> Attempt
  | 0 => env.attemptAt c j
  | n + 1 => env.attemptAt c ((nthAttempt n).ended.pass (env.alarm (Opening.backoff c (n + 1))))

def attemptCount : Nat :=
  match (List.range (Opening.attempts c)).find? fun i => (env.nthAttempt c j i).isGood with
  | some i => i + 1
  | none => Opening.attempts c

def failures : List Instant :=
  ((List.range (env.attemptCount c j)).filter fun i => !(env.nthAttempt c j i).isGood).map
    fun i => (env.nthAttempt c j i).ended.now

def lastAttempt : Attempt := env.nthAttempt c j (env.attemptCount c j - 1)

/-- Every attempt is made in the same way. -/
theorem nthAttempt_eq (i : Nat) :
    env.nthAttempt c j i = env.attemptAt c (env.nthAttempt c j i).begun := by
  cases i with
  | zero | succ i =>
      rfl

theorem requests_attemptAt :
    (env.attemptAt c j).ended.requests = j.requests ++ [(j.now, .create)] := by
  unfold attemptAt limited
  split
  · rfl
  · rfl

/-- All attempts but the last fail, and the last one does so only if no more are allowed. -/
theorem attemptCount_spec :
    0 < env.attemptCount c j ∧ env.attemptCount c j ≤ Opening.attempts c ∧
      (forall i, i + 1 < env.attemptCount c j -> (env.nthAttempt c j i).isGood = false) ∧
      ((env.lastAttempt c j).isGood = true ∨ env.attemptCount c j = Opening.attempts c) := by
  have hpos := Opening.attempts_pos c
  unfold lastAttempt attemptCount
  split
  · rename_i i hfound
    rcases List.find?_range_eq_some.mp hfound with ⟨hgood, hmem, hearlier⟩
    have hlt := List.mem_range.mp hmem
    refine ⟨Nat.succ_pos i, hlt, ?_, Or.inl hgood⟩
    intro l hl
    simpa using hearlier l (by omega)
  · rename_i hnone
    refine ⟨hpos, Nat.le_refl _, ?_, Or.inr rfl⟩
    intro l hl
    simpa using List.find?_range_eq_none.mp hnone l (by omega)

theorem requests_nthAttempt (n : Nat) :
    (env.nthAttempt c j n).ended.requests =
      j.requests ++
        (List.range (n + 1)).map fun i => ((env.nthAttempt c j i).begun.now, .create) := by
  induction n with
  | zero =>
      exact env.requests_attemptAt c j
  | succ n ih =>
      have hnext : (env.nthAttempt c j (n + 1)).ended.requests =
          (env.nthAttempt c j n).ended.requests ++
            [((env.nthAttempt c j (n + 1)).begun.now, .create)] := env.requests_attemptAt c _
      rw [hnext, ih, List.range_succ (n := n + 1), List.map_append, List.append_assoc]
      rfl

theorem failures_eq :
    env.failures c j =
      ((List.range (env.attemptCount c j - 1)).map fun i => (env.nthAttempt c j i).ended.now) ++
        if (env.lastAttempt c j).isGood then [] else [(env.lastAttempt c j).ended.now] := by
  rcases env.attemptCount_spec c j with ⟨hpos, _, hearlier, _⟩
  have hcount : env.attemptCount c j = env.attemptCount c j - 1 + 1 := by omega
  have hfails : (List.range (env.attemptCount c j - 1)).filter
      (fun i => !(env.nthAttempt c j i).isGood) = List.range (env.attemptCount c j - 1) := by
    apply List.filter_eq_self.mpr
    intro i hi
    rw [hearlier i (by have := List.mem_range.mp hi; omega)]
    rfl
  unfold failures
  rw [hcount, List.range_succ, List.filter_append, List.map_append, Nat.add_sub_cancel, hfails]
  unfold lastAttempt
  cases hgood : (env.nthAttempt c j (env.attemptCount c j - 1)).isGood with
  | true | false =>
      simp [hgood]

end Surroundings

/-!
## The waits of a call
-/

namespace Machine

variable {σ α : Type} {m : Machine σ α} {env : Surroundings}
variable {j k l : Journal} {x : ConnectionPool × Progress σ α} {y z : ConnectionPool × α}

/-- A call is driven to its end; its waits are listed, each with what had happened before. -/
inductive Visits (m : Machine σ α) (env : Surroundings) :
    Journal -> ConnectionPool × Progress σ α -> List (Journal × Await) ->
      Journal -> ConnectionPool × α -> Prop where
  | done (j : Journal) (p : ConnectionPool) (a : α) : Visits m env j (p, .done a) [] j (p, a)
  | wait {j k l : Journal} {p : ConnectionPool} {s : σ} {r : Reply} {y : ConnectionPool × α}
      {waits : List (Journal × Await)}
      (hends : env.ending? p.config j (m.await p.config s) = some (k, r))
      (hrest : Visits m env k (m.step p k.now s r) waits l y) :
      Visits m env j (p, .waiting s) ((j, m.await p.config s) :: waits) l y

theorem Visits.drives {waits : List (Journal × Await)} (h : m.Visits env j x waits k y) :
    m.Drives env j x k y := by
  induction h with
  | done j p a =>
      exact .done j p a
  | wait hends _ ih =>
      exact .wait hends ih

theorem Visits.unique {waits others : List (Journal × Await)} (h : m.Visits env j x waits k y)
    (h' : m.Visits env j x others l z) : others = waits ∧ l = k ∧ z = y := by
  induction h generalizing others with
  | done j p a =>
      cases h'
      exact ⟨rfl, rfl, rfl⟩
  | wait hends _ ih =>
      cases h' with
      | wait hends' hrest' =>
          rw [hends] at hends'
          cases hends'
          rcases ih hrest' with ⟨rfl, hends, heq⟩
          exact ⟨rfl, hends, heq⟩

end Machine

/-!
## Opening a connection
-/

namespace PoolConfig

theorem nanos_retryBackoff (c : PoolConfig) (i : UInt32) :
    (c.retryBackoff i).nanos =
      min (c.retryDelay.nanos * 2 ^ min (max i.toNat 1 - 1) 16) Duration.maxNanos := by
  have hindex : max i.toNat 1 - 1 = i.toNat - 1 := by omega
  rw [hindex]
  rfl

theorem retryBackoff_le (c : PoolConfig) {i k : UInt32} (h : i ≤ k) :
    c.retryBackoff i ≤ c.retryBackoff k := by
  have hle : i.toNat ≤ k.toNat := h
  have hpow : 2 ^ min (max i.toNat 1 - 1) 16 ≤ 2 ^ min (max k.toNat 1 - 1) 16 :=
    Nat.pow_le_pow_right (by decide) (by omega)
  have hscaled := Nat.mul_le_mul_left c.retryDelay.nanos hpow
  show (c.retryBackoff i).nanos ≤ (c.retryBackoff k).nanos
  rw [nanos_retryBackoff, nanos_retryBackoff]
  omega

end PoolConfig

theorem Erred.recordErrors (p : ConnectionPool) (times : List Instant) :
    Erred p (p.recordErrors times) := by
  induction times generalizing p with
  | nil =>
      exact .refl p
  | cons now rest ih =>
      exact .error now (ih (p.recordError now))

namespace Opening

variable {env : Surroundings} {c : PoolConfig} {j k l : Journal} {p : ConnectionPool}
variable {waits : List (Journal × Await)} {y : ConnectionPool × Except PoolError Connection}

def failedWaits (env : Surroundings) (c : PoolConfig) (j : Journal) (i : Nat) :
    List (Journal × Await) :=
  [((env.nthAttempt c j i).begun, .create),
    ((env.nthAttempt c j i).ended, .pause (c.retryBackoff (i + 1).toUInt32))]

theorem visits_attempt (number : Nat)
    (h : machine.Visits env (env.attemptAt p.config j).ended
      (step p (env.attemptAt p.config j).ended.now (creating number)
        (.created ((env.attemptAt p.config j).result p.config))) waits l y) :
    machine.Visits env j (p, .waiting (creating number)) ((j, .create) :: waits) l y := by
  unfold Surroundings.attemptAt Attempt.result at h
  cases hends : env.limited p.config.connectionTimeout j .create (env.creation j) with
  | mk k answer =>
      rw [hends] at h
      cases answer with
      | none =>
          have hending : env.ending? p.config j .create = some (k, .timedOut) := by
            simp only [Surroundings.ending?, hends]
          exact Machine.Visits.wait hending h
      | some r =>
          have hending : env.ending? p.config j .create = some (k, .created r) := by
            simp only [Surroundings.ending?, hends]
          exact Machine.Visits.wait hending h

theorem visits_failed {number : Nat} (hmore : number < attempts p.config)
    (hfailed : (env.attemptAt p.config j).isGood = false)
    (h : machine.Visits env
      ((env.attemptAt p.config j).ended.pass (env.alarm (backoff p.config number)))
      (p.recordError (env.attemptAt p.config j).ended.now, .waiting (creating (number + 1)))
      waits l y) :
    machine.Visits env j (p, .waiting (creating number))
      ((j, .create) :: ((env.attemptAt p.config j).ended, .pause (backoff p.config number)) ::
        waits) l y := by
  rcases Attempt.exists_result_of_not_good (c := p.config) hfailed with ⟨e, hresult⟩
  apply visits_attempt
  rw [hresult]
  have hfail : fail p (env.attemptAt p.config j).ended.now number e =
      (p.recordError (env.attemptAt p.config j).ended.now, .waiting (pausing number)) :=
    if_pos hmore
  show machine.Visits env _ (fail p _ number e) _ l y
  rw [hfail]
  exact Machine.Visits.wait rfl h

theorem visits_last {number : Nat}
    (hlast : (env.attemptAt p.config j).isGood = true ∨ number = attempts p.config) :
    machine.Visits env j (p, .waiting (creating number)) [(j, .create)]
      (env.attemptAt p.config j).ended
      (p.recordErrors
          (if (env.attemptAt p.config j).isGood then []
          else [(env.attemptAt p.config j).ended.now]),
        (env.attemptAt p.config j).outcome p.config) := by
  apply visits_attempt
  unfold Attempt.outcome
  cases hgood : (env.attemptAt p.config j).isGood with
  | true =>
      rcases Attempt.exists_result_of_good (c := p.config) hgood with ⟨d, hresult⟩
      rw [hresult]
      exact .done _ p (Except.ok d)
  | false =>
      rcases Attempt.exists_result_of_not_good (c := p.config) hgood with ⟨e, hresult⟩
      have hnomore : ¬number < attempts p.config := by
        rw [hgood] at hlast
        simp at hlast
        omega
      have hfail : fail p (env.attemptAt p.config j).ended.now number e =
          (p.recordError (env.attemptAt p.config j).ended.now,
            .done (.error (.backend p.name e))) := if_neg hnomore
      rw [hresult]
      show machine.Visits env _ (fail p _ number e) _ _ _
      rw [hfail]
      exact .done _ _ _

theorem visits_from (hconfig : p.config = c) (i more : Nat)
    (hfails : forall n, i ≤ n -> n < i + more -> (env.nthAttempt c j n).isGood = false)
    (hlast : (env.nthAttempt c j (i + more)).isGood = true ∨ i + more + 1 = attempts c)
    (hmost : i + more + 1 ≤ attempts c) :
    machine.Visits env (env.nthAttempt c j i).begun (p, .waiting (creating (i + 1)))
      ((List.range' i more).flatMap (failedWaits env c j) ++
        [((env.nthAttempt c j (i + more)).begun, .create)])
      (env.nthAttempt c j (i + more)).ended
      (p.recordErrors
          ((List.range' i more).map (fun n => (env.nthAttempt c j n).ended.now) ++
            if (env.nthAttempt c j (i + more)).isGood then []
            else [(env.nthAttempt c j (i + more)).ended.now]),
        (env.nthAttempt c j (i + more)).outcome c) := by
  subst hconfig
  -- Each attempt is made where the one before has left the clock and the pool.
  induction more generalizing p i with
  | zero =>
      cases i with
      | zero | succ i =>
          exact visits_last hlast
  | succ more ih =>
      have hindex : i + 1 + more = i + (more + 1) := by omega
      have hlater := ih (p := p.recordError (env.nthAttempt p.config j i).ended.now) (i + 1)
      rw [hindex] at hlater
      have hrest := hlater (fun n hle hlt => hfails n (by omega) hlt) hlast hmost
      have hfailed := hfails i (Nat.le_refl i) (by omega)
      have hmade := env.nthAttempt_eq p.config j i
      rw [List.range'_succ]
      rw [hmade] at hfailed
      have hnumber : i + 1 < attempts p.config := by omega
      have hvisits := visits_failed hnumber hfailed (by rw [← hmade]; exact hrest)
      rw [← hmade] at hvisits
      exact hvisits

/-- All the waits of an opening: a pause after each attempt but the last. -/
def itinerary (env : Surroundings) (c : PoolConfig) (j : Journal) : List (Journal × Await) :=
  (List.range (env.attemptCount c j - 1)).flatMap (failedWaits env c j) ++
    [((env.lastAttempt c j).begun, .create)]

theorem visits_first (env : Surroundings) (p : ConnectionPool) (j : Journal) :
    machine.Visits env j (p, .waiting first) (itinerary env p.config j)
      (env.lastAttempt p.config j).ended
      (p.recordErrors (env.failures p.config j),
        (env.lastAttempt p.config j).outcome p.config) := by
  rcases env.attemptCount_spec p.config j with ⟨hpos, hmost, hearlier, hlast⟩
  unfold itinerary
  unfold Surroundings.lastAttempt at hlast ⊢
  rw [Surroundings.failures_eq]
  unfold Surroundings.lastAttempt
  generalize hmore : env.attemptCount p.config j - 1 = more at *
  have hfails : forall n, 0 ≤ n -> n < 0 + more ->
      (env.nthAttempt p.config j n).isGood = false := fun n _ hn => hearlier n (by omega)
  have hall := visits_from rfl 0 more hfails
  rw [← List.range_eq_range'] at hall
  simp only [Nat.zero_add] at hall
  exact hall (hlast.imp id fun hcount => by omega) (by omega)

/-- A connection is opened just as the queue opens it. -/
theorem openNew_eq (env : Surroundings) (c : PoolConfig) (j : Journal) :
    env.openNew c j = ((env.lastAttempt c j).ended, (env.lastAttempt c j).outcome c) := by
  rcases drives_first (p := .ofConfig c) env rfl j with ⟨q, hdrives, _⟩
  rcases hdrives.unique (visits_first env (.ofConfig c) j).drives with ⟨hended, heq⟩
  exact Prod.ext hended.symm (congrArg Prod.snd heq).symm

theorem drives_openNew (env : Surroundings) (p : ConnectionPool) (j : Journal) :
    machine.Drives env j (p, .waiting first) (env.openNew p.config j).1
      (p.recordErrors (env.failures p.config j), (env.openNew p.config j).2) := by
  rw [openNew_eq]
  exact (visits_first env p j).drives

/-- What becomes of an opening: the attempts that are made, the pauses between them, what is booked
and what is reported. -/
structure Retried (env : Surroundings) (j : Journal) (p : ConnectionPool)
    (waits : List (Journal × Await)) (k : Journal) (q : ConnectionPool)
    (r : Except PoolError Connection) : Prop where
  few : 0 < env.attemptCount p.config j ∧
    env.attemptCount p.config j ≤ max 1 p.config.retryAttempts.toNat
  /-- The first attempt that goes well is the last one, if it is allowed. -/
  untilGood : forall i, i < max 1 p.config.retryAttempts.toNat ->
    (env.nthAttempt p.config j i).isGood = true ->
      (forall n, n < i -> (env.nthAttempt p.config j n).isGood = false) ->
        env.attemptCount p.config j = i + 1
  /-- Otherwise all attempts are made that are allowed. -/
  inVain : (forall i, i < max 1 p.config.retryAttempts.toNat ->
      (env.nthAttempt p.config j i).isGood = false) ->
    env.attemptCount p.config j = max 1 p.config.retryAttempts.toNat
  /-- The backend is asked once for each attempt. -/
  asked : k.requests = j.requests ++ (List.range (env.attemptCount p.config j)).map fun i =>
    ((env.nthAttempt p.config j i).begun.now, .create)
  /-- There is a pause after each attempt but the last. -/
  paused : waits =
    (List.range (env.attemptCount p.config j - 1)).flatMap (fun i =>
      [((env.nthAttempt p.config j i).begun, .create),
        ((env.nthAttempt p.config j i).ended, .pause (p.config.retryBackoff (i + 1).toUInt32))]) ++
      [((env.lastAttempt p.config j).begun, .create)]
  numbered : forall i, i < env.attemptCount p.config j -> (i + 1).toUInt32.toNat = i + 1
  ended : k = (env.lastAttempt p.config j).ended
  /-- Failures are counted, remembered and reported one by one, and nothing else is booked. -/
  booked : q =
    { p with
      stats := { p.stats with errors := p.stats.errors + (env.failures p.config j).length }
      errors := (env.failures p.config j).foldl ErrorWindow.record p.errors
      outbox := p.outbox ++ List.replicate (env.failures p.config j).length
        (.measured (.increment Metrics.connectionErrorsTotal p.labels)) }
  connected : forall d, (env.lastAttempt p.config j).answer? = some (.ok d) -> r = .ok d
  refused : forall e, (env.lastAttempt p.config j).answer? = some (.error e) ->
    r = .error (.backend p.name e)
  late : (env.lastAttempt p.config j).answer? = none ->
    r = .error (.backend p.name (.timeout p.config.connectionTimeout))

theorem retried_first (env : Surroundings) (p : ConnectionPool) (j : Journal) :
    Retried env j p (itinerary env p.config j) (env.lastAttempt p.config j).ended
      (p.recordErrors (env.failures p.config j))
      ((env.lastAttempt p.config j).outcome p.config) := by
  rcases env.attemptCount_spec p.config j with ⟨hpos, hmost, hearlier, hlast⟩
  have hattempts : attempts p.config = max 1 p.config.retryAttempts.toNat := Nat.max_comm _ _
  have hword := p.config.retryAttempts.toNat_lt
  rw [hattempts] at hmost hlast
  unfold Surroundings.lastAttempt at hlast
  constructor
  · exact ⟨hpos, hmost⟩
  · intro i hi hgood hbefore
    by_contra hnot
    rcases Nat.lt_trichotomy (env.attemptCount p.config j) (i + 1) with hless | heq | hmore
    · rcases hlast with hgood' | hall
      · rw [hbefore _ (by omega)] at hgood'
        cases hgood'
      · omega
    · exact hnot heq
    · rw [hearlier i hmore] at hgood
      cases hgood
  · intro hfails
    rcases hlast with hgood | hall
    · rw [hfails _ (by omega)] at hgood
      cases hgood
    · exact hall
  · have hrequests := env.requests_nthAttempt p.config j (env.attemptCount p.config j - 1)
    rw [Nat.sub_add_cancel hpos] at hrequests
    exact hrequests
  · rfl
  · intro i hi
    apply Nat.mod_eq_of_lt
    omega
  · rfl
  · exact recordErrors_eq p _
  · intro d hanswer
    exact Attempt.outcome_of_answer hanswer
  · intro e hanswer
    exact Attempt.outcome_of_answer hanswer
  · intro hanswer
    unfold Attempt.outcome Attempt.result
    rw [hanswer]
    rfl

/-- A connection is opened in one way only: attempts are made until one goes well, as many as are
allowed and at least one, with the pause that is set after each but the last.  All that is booked
are the failures.  The pauses double sixteen times at most, and never leave the range. -/
theorem opens_with_retries (env : Surroundings) (p : ConnectionPool) (j : Journal) :
    (exists waits k q r,
        machine.Visits env j (p, .waiting first) waits k (q, r) ∧
          (forall others l y, machine.Visits env j (p, .waiting first) others l y ->
            others = waits ∧ l = k ∧ y = (q, r)) ∧
          Retried env j p waits k q r) ∧
      forall (c : PoolConfig) (i : UInt32),
        (c.retryBackoff i).nanos =
            min (c.retryDelay.nanos * 2 ^ min (max i.toNat 1 - 1) 16) Duration.maxNanos ∧
          2 ^ min (max i.toNat 1 - 1) 16 < UInt32.size ∧
          forall k, i ≤ k -> c.retryBackoff i ≤ c.retryBackoff k := by
  have hvisits := visits_first env p j
  refine ⟨⟨_, _, _, _, hvisits, ?_, retried_first env p j⟩, ?_⟩
  · intro others l y h
    exact hvisits.unique h
  · intro c i
    refine ⟨c.nanos_retryBackoff i, ?_, fun k hle => c.retryBackoff_le hle⟩
    have hfits : 2 ^ min (max i.toNat 1 - 1) 16 ≤ 2 ^ 16 :=
      Nat.pow_le_pow_right (by decide) (by omega)
    exact Nat.lt_of_le_of_lt hfits (by decide)

end Opening
end PoolHealth
