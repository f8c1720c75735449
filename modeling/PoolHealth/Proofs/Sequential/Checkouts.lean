import PoolHealth.Proofs.Pool.Capacity
import PoolHealth.Proofs.Pool.Serving
import PoolHealth.Proofs.Sequential.Reference

/-!
# Checking out alone

A checkout that nobody disturbs serves its caller from the queue of idle connections, and it
leaves the rest of the queue as it was.  Nobody fills the pool while expired connections are
closed, so that there is still room for one that is opened after that.
-/

namespace PoolHealth

open ConnectionPool Token

variable {now : Instant} {p q : ConnectionPool} {A B F : Multiset Token}

def Law.roomy : Law := .lateIn fun p => p.load < p.room

/-- A pool is in order, together with what is held of it, and not too large. -/
structure Fit (p : ConnectionPool) (held : Multiset Token) : Prop where
  sound : Sound p held
  below : Below p.room p

namespace Fit

theorem change (now : Instant) (h : Change .roomy now p A q B) (hp : Fit p (A + F)) :
    Fit q (B + F) where
  sound := Sound.change not_false h hp.sound
  below := Below.change not_false (fun _ hless => hless) h hp.sound hp.below

theorem gain (now : Instant) (h : Change .roomy now p 0 q B) (hp : Fit p F) : Fit q (B + F) := by
  rw [← zero_add F] at hp
  exact hp.change now h

theorem lose (now : Instant) (h : Change .roomy now p A q 0) (hp : Fit p (A + F)) : Fit q F := by
  rw [← zero_add F]
  exact hp.change now h

theorem keep (now : Instant) (h : Change .roomy now p 0 q 0) (hp : Fit p F) : Fit q F := by
  rw [← zero_add F]
  exact hp.gain now h

theorem changes (h : Changes .roomy now p A q B) (hp : Fit p (A + F)) : Fit q (B + F) :=
  (h.frame F).invariant (fun _ => change now) hp

theorem add_raws (cs : List Connection) (h : Fit p A) : Fit p (A + raws cs) where
  sound := h.sound.add_raws cs
  below := h.below

theorem of_add_doomed (cs : List Connection) (h : Fit p (A + doomed cs)) : Fit p A where
  sound := {
    balanced := by apply h.sound.balanced.congr <;> simp
    phased := by apply h.sound.phased.congr <;> simp
    orderly := by
      apply h.sound.orderly.keep <;> simp_all
    sizes := h.sound.sizes }
  below := h.below

theorem load_lt_room (hidle : p.idle = []) (h : Fit p ({.slot .stale} + F)) : p.load < p.room := by
  have hbare : Balanced p ({.slot .bare} + F) := by
    apply h.sound.balanced.congr <;> simp
  have hroom := hbare.room_of_slot (by simpa using h.sound.orderly.owned) hidle
  omega

theorem afterSweep (hexpired : forall x, x ∈ p.idle -> isExpired p.config now x = true)
    (h : Fit p ({.slot .bare} + F)) : Fit p.afterSweep.addPending ({.slot .opening} + F) := by
  by_cases hnone : p.idle = []
  · exact h.change now (Change.openAtOnce hnone)
  · -- The expired ones are closed meanwhile, but none has become idle when that is done.
    have hswept := h.change now (Change.foundNone hnone hexpired)
    rw [add_right_comm] at hswept
    have hstale := hswept.of_add_doomed
    exact hstale.change now (Change.openLate (hstale.load_lt_room rfl))

end Fit

namespace ConnectionPool

@[simp] theorem dues_recordError (p : ConnectionPool) : (p.recordError now).dues = p.dues := by
  simp [dues, recordError, PoolEvent.dues]

@[simp] theorem dues_emit (p : ConnectionPool) (e : PoolEvent) :
    (p.emit e).dues = p.dues ++ e.dues := by
  simp [dues, emit]

@[simp] theorem dues_recordWait (wait : Duration) (p : ConnectionPool) :
    (p.recordWait wait).dues = p.dues := by
  simp [dues, recordWait, PoolEvent.dues]

@[simp] theorem dues_releaseSlot (p : ConnectionPool) : p.releaseSlot.dues = p.dues := by
  rw [releaseSlot_eq]
  simp [dues]

end ConnectionPool

/-!
## Opening a connection
-/

inductive Erred : ConnectionPool -> ConnectionPool -> Prop where
  | refl (p : ConnectionPool) : Erred p p
  | error {p q : ConnectionPool} (now : Instant) (h : Erred (p.recordError now) q) : Erred p q

namespace Erred

theorem config_eq (h : Erred p q) : q.config = p.config := by
  induction h with
  | refl p =>
      rfl
  | error now _ ih =>
      exact ih

theorem idle_eq (h : Erred p q) : q.idle = p.idle := by
  induction h with
  | refl p =>
      rfl
  | error now _ ih =>
      exact ih

theorem dues_eq (h : Erred p q) : q.dues = p.dues := by
  induction h with
  | refl p =>
      rfl
  | error now _ ih =>
      exact ih.trans (dues_recordError _)

theorem serves (h : Erred p q) : Serves p q := by
  induction h with
  | refl p =>
      exact .refl p
  | error now _ ih =>
      refine Serves.trans ?_ ih
      exact .of_slots rfl rfl rfl rfl rfl

theorem fit (h : Erred p q) (hp : Fit p A) : Fit q A := by
  induction h with
  | refl p =>
      exact hp
  | @error p q now _ ih =>
      exact ih (hp.keep now (Change.error p))

end Erred

namespace Opening

variable {env : Surroundings} {c : PoolConfig} {j k l : Journal}

def machine : Machine Opening (Except PoolError Connection) where
  await := fun c o => o.await c
  step := step

theorem drives_attempt {result : Except BackendError Connection} {number : Nat}
    {y : ConnectionPool × Except PoolError Connection}
    (hattempt : env.attempt p.config j = (k, result))
    (h : machine.Drives env k (step p k.now (creating number) (.created result)) l y) :
    machine.Drives env j (p, .waiting (creating number)) l y := by
  unfold Surroundings.attempt at hattempt
  cases hends : env.limited p.config.connectionTimeout j .create (env.creation j) with
  | mk i outcome =>
      rw [hends] at hattempt
      have hending : env.ending? p.config j .create =
          some (i, match outcome with
            | some r => .created r
            | none => .timedOut) := by
        simp only [Surroundings.ending?, hends]
        cases outcome with
        | none =>
            rfl
        | some r =>
            rfl
      cases outcome with
      | none =>
          cases hattempt
          exact Machine.Drives.wait hending h
      | some r =>
          cases hattempt
          exact Machine.Drives.wait hending h

theorem drives_creating (hconfig : p.config = c) (number more : Nat)
    (hnumber : number + more = attempts c) (j : Journal) :
    exists q,
      machine.Drives env j (p, .waiting (creating number)) (env.openFrom c number more j).1
        (q, (env.openFrom c number more j).2) ∧ Erred p q := by
  subst hconfig
  -- The attempts that are left decrease while their number grows.
  induction more generalizing p number j with
  | zero =>
      unfold Surroundings.openFrom
      cases hattempt : env.attempt p.config j with
      | mk k result =>
          cases result with
          | ok d =>
              exact ⟨p, drives_attempt hattempt (.done k p (Except.ok d)), .refl p⟩
          | error e =>
              have hlast : ¬number < attempts p.config := by omega
              refine ⟨p.recordError k.now, drives_attempt hattempt ?_, .error k.now (.refl _)⟩
              have hfail : fail p k.now number e =
                  (p.recordError k.now, .done (.error (.backend p.name e))) := if_neg hlast
              show machine.Drives env k (fail p k.now number e) k _
              rw [hfail]
              exact .done _ _ _
  | succ more ih =>
      unfold Surroundings.openFrom
      cases hattempt : env.attempt p.config j with
      | mk k result =>
          cases result with
          | ok d =>
              exact ⟨p, drives_attempt hattempt (.done k p (Except.ok d)), .refl p⟩
          | error e =>
              have hmore : number < attempts p.config := by omega
              have hnext : number + 1 + more = attempts (p.recordError k.now).config := by
                show number + 1 + more = attempts p.config
                omega
              rcases ih (number + 1) (k.pass (env.alarm (backoff p.config number))) hnext with
                ⟨q, hrest, herred⟩
              refine ⟨q, drives_attempt hattempt ?_, .error k.now herred⟩
              have hfail : fail p k.now number e =
                  (p.recordError k.now, .waiting (pausing number)) := if_pos hmore
              show machine.Drives env k (fail p k.now number e) _ _
              rw [hfail]
              exact Machine.Drives.wait rfl hrest

theorem drives_first (env : Surroundings) (hconfig : p.config = c) (j : Journal) :
    exists q,
      machine.Drives env j (p, .waiting first) (env.openNew c j).1 (q, (env.openNew c j).2) ∧
        Erred p q := by
  have hpos := attempts_pos c
  exact drives_creating hconfig 1 (attempts c - 1) (by omega) j

end Opening

/-!
## Serving from the queue
-/

namespace Surroundings

variable {env : Surroundings} {c : PoolConfig} {j : Journal}

theorem serve_append {expired : List IdleConnection}
    (hexpired : forall x, x ∈ expired -> isExpired c j.now x = true) (aside : List Connection)
    (rest : List IdleConnection) :
    env.serve c aside (expired ++ rest) j =
      env.serve c (aside ++ expired.map (·.connection)) rest j := by
  induction expired generalizing aside with
  | nil =>
      simp
  | cons e others ih =>
      have hfirst := hexpired e List.mem_cons_self
      have hothers : forall x, x ∈ others -> isExpired c j.now x = true := by
        intro x hx
        exact hexpired x (List.mem_cons_of_mem e hx)
      rw [List.cons_append, serve, if_pos hfirst, ih hothers, List.map_cons, List.append_assoc]
      rfl

end Surroundings

namespace Checkout

variable {env : Surroundings} {c : PoolConfig} {j k l : Journal} {purpose : CheckoutPurpose}

def machine (purpose : CheckoutPurpose) : Machine Checkout (Except PoolError Lease) where
  await := fun c k => k.await c
  step := step purpose

def begun (p : ConnectionPool) (now : Instant) :
    ConnectionPool × Progress Checkout (Except PoolError Lease) :=
  ((search p now).1, .waiting (search p now).2)

theorem closes (candidate : Option IdleConnection) :
    (machine purpose).Closes (fun d rest => closingExpired d rest candidate)
      fun p _ => ((pursue p candidate).1, .waiting (pursue p candidate).2) where
  await := fun _ _ _ => rfl
  step := by
    intro p now d rest r hfits
    cases r with
    | timedOut | closed result =>
        cases rest with
        | nil =>
            rfl
        | cons e others =>
            rfl
    | stirred | created result | validated ok =>
        cases hfits

theorem opening_within :
    Opening.machine.Within (machine purpose) opening land where
  await := fun _ _ => rfl
  step := by
    intro p now o r
    show step purpose p now (opening o) r = Machine.resume opening land now (o.step p now r)
    cases hstep : o.step p now r with
    | mk q progress =>
        cases progress with
        | waiting o' | done result =>
            simp only [step, hstep, Machine.resume]

structure Ends (p q : ConnectionPool) (s : Served) (held : Multiset Token) : Prop where
  idle : q.idle = s.queue
  dues : q.dues = p.dues
  fit : Fit q (leased s.result + held)
  serves : Serves p q

theorem Ends.after {r : ConnectionPool} {s : Served} (h : Ends q r s A) (hdues : q.dues = p.dues)
    (hserves : Serves p q) : Ends p r s A where
  idle := h.idle
  dues := h.dues.trans hdues
  fit := h.fit
  serves := hserves.trans h.serves

theorem begun_eq {ds : List Connection} {candidate : Option IdleConnection}
    (htake : p.takeIdle now = (q, candidate, ds)) :
    begun p now =
      Machine.closeThen (fun d rest => closingExpired d rest candidate)
        (fun p _ => ((pursue p candidate).1, .waiting (pursue p candidate).2)) q now ds := by
  unfold begun search
  rw [htake]
  cases ds with
  | nil =>
      rfl
  | cons d rest =>
      rfl

theorem drives_opening (env : Surroundings) (purpose : CheckoutPurpose) (hconfig : p.config = c)
    (hidle : p.idle = []) (hfit : Fit p ({.slot .opening} + F)) (j : Journal) :
    exists q,
      (machine purpose).Drives env j (p, .waiting (opening .first)) (env.serve c [] [] j).journal
        (q, (env.serve c [] [] j).result) ∧ Ends p q (env.serve c [] [] j) F := by
  rcases Opening.drives_first env hconfig j with ⟨q, hopening, herred⟩
  have hopened := herred.fit hfit
  have hclosed : env.closeAll c j [] = j := rfl
  cases hnew : env.openNew c j with
  | mk k result =>
      rw [hnew] at hopening
      unfold Surroundings.serve
      rw [hclosed, hnew]
      cases result with
      | ok d =>
          refine ⟨(land q k.now (.ok d)).1, ?_, ?_, ?_, ?_, ?_⟩
          · exact Machine.Drives.within opening_within hopening (.done _ _ _)
          · exact herred.idle_eq.trans hidle
          · exact herred.dues_eq
          · have hraw := hopened.add_raws [d]
            rw [add_right_comm] at hraw
            exact hraw.change k.now (Change.land q d)
          · exact herred.serves.trans (serves_land q (.ok d))
      | error e =>
          refine ⟨(land q k.now (.error e)).1, ?_, ?_, ?_, ?_, ?_⟩
          · exact Machine.Drives.within opening_within hopening (.done _ _ _)
          · show q.dropPending.releaseSlot.idle = []
            rw [releaseSlot_eq]
            exact herred.idle_eq.trans hidle
          · exact (dues_releaseSlot _).trans herred.dues_eq
          · rw [show leased (.error e) = 0 from rfl, zero_add]
            exact hopened.lose k.now (Change.openFailed q)
          · exact herred.serves.trans (serves_land q (.error e))

theorem ends_accept (purpose : CheckoutPurpose) (d : Lease) {s : Served}
    (hfit : Fit p (leased s.result + F)) (hidle : p.idle = s.queue) :
    Ends p (accept p purpose d).1 s F := by
  cases purpose with
  | healthCheck =>
      exact ⟨hidle, rfl, hfit, .refl p⟩
  | caller =>
      exact ⟨hidle, rfl, hfit.keep ⟨0⟩ (Change.hit p), .of_slots rfl rfl rfl rfl rfl⟩

theorem drives_probe {d : Lease} {ok : Bool} {y : ConnectionPool × Except PoolError Lease}
    (hprobe : env.probe p.config j d.connection = (k, ok))
    (h : (machine purpose).Drives env k (step purpose p k.now (validating d) (.validated ok)) l y) :
    (machine purpose).Drives env j (p, .waiting (validating d)) l y := by
  unfold Surroundings.probe at hprobe
  cases hends : env.limited p.config.validationTimeout j (.validate d.connection)
      (env.validation j d.connection) with
  | mk i outcome =>
      rw [hends] at hprobe
      have hending : env.ending? p.config j (.validate d.connection) =
          some (i, match outcome with
            | some ok => .validated ok
            | none => .timedOut) := by
        simp only [Surroundings.ending?, hends]
        cases outcome with
        | none =>
            rfl
        | some ok =>
            rfl
      cases outcome with
      | none =>
          cases hprobe
          exact Machine.Drives.wait hending h
      | some ok =>
          cases hprobe
          exact Machine.Drives.wait hending h

theorem drives_closingInvalid {d : Connection} {y : ConnectionPool × Except PoolError Lease}
    (h : (machine purpose).Drives env (env.close p.config j d)
      (begun p (env.close p.config j d).now) l y) :
    (machine purpose).Drives env j (p, .waiting (closingInvalid d)) l y := by
  rcases env.exists_ending_close p.config j d with ⟨r, hends, hfits⟩
  refine Machine.Drives.wait hends ?_
  cases r with
  | timedOut | closed result =>
      exact h
  | stirred | created result | validated ok =>
      cases hfits

def Serving (env : Surroundings) (purpose : CheckoutPurpose) (p : ConnectionPool) (j : Journal)
    (held : Multiset Token) : Prop :=
  exists q,
    (machine purpose).Drives env j (begun p j.now) (env.serve p.config [] p.idle j).journal
      (q, (env.serve p.config [] p.idle j).result) ∧ Ends p q (env.serve p.config [] p.idle j) held

def afterProbe (p : ConnectionPool) (now : Instant) (expired : Nat) (rest : List IdleConnection) :
    ConnectionPool :=
  (((p.afterPick expired rest).dropActive).recordClosures 1).recordError now

/-- A live connection is probed.  If it fails, the search begins again behind it. -/
theorem serving_of_found {expired rest : List IdleConnection} {e : IdleConnection}
    (hidle : p.idle = expired ++ e :: rest)
    (hexpired : forall x, x ∈ expired -> isExpired p.config j.now x = true)
    (hlive : isExpired p.config j.now e = false)
    (htake : p.takeIdle j.now =
      (p.afterPick expired.length rest, some e, expired.map (·.connection)))
    (hfit : Fit p ({.slot .bare} + F))
    (hagain : forall k, Fit (afterProbe p k.now expired.length rest) ({.slot .bare} + F) ->
      Serving env purpose (afterProbe p k.now expired.length rest)
        (env.close p.config k e.connection) F) :
    Serving env purpose p j F := by
  have hpicked := hfit.change j.now (Change.found hidle hexpired hlive)
  rw [add_right_comm] at hpicked
  have hlent := hpicked.of_add_doomed
  have hserves : Serves p (p.afterPick expired.length rest) := .of_slots rfl rfl rfl rfl rfl
  unfold Serving
  rw [begun_eq htake, hidle, Surroundings.serve_append hexpired, List.nil_append,
    Surroundings.serve, if_neg (by simp [hlive])]
  cases hprobe : env.probe p.config
      (env.closeAll p.config j (expired.map (·.connection))) e.connection with
  | mk k ok =>
      have hclosing (l : Journal) (y : ConnectionPool × Except PoolError Lease)
          (h : (machine purpose).Drives env k
            (step purpose (p.afterPick expired.length rest) k.now
              (validating { connection := e.connection, createdAt := e.createdAt })
              (.validated ok)) l y) :
          (machine purpose).Drives env j
            (Machine.closeThen (fun d rest => closingExpired d rest (some e))
              (fun p _ => ((pursue p (some e)).1, .waiting (pursue p (some e)).2))
              (p.afterPick expired.length rest) j.now (expired.map (·.connection))) l y :=
        Machine.Drives.closeThen (closes (some e)) (drives_probe hprobe h)
      cases ok with
      | true =>
          -- It is lent, and what is behind it stays in the queue.
          let d : Lease := { connection := e.connection, createdAt := e.createdAt }
          have hends : Ends (p.afterPick expired.length rest) (accept _ purpose d).1
              ⟨k, rest, .ok d⟩ F := ends_accept purpose d hlent rfl
          exact ⟨_, hclosing _ _ (.done k _ _), hends.after rfl hserves⟩
      | false =>
          -- The slot is kept, so that the search can go on behind it.
          have hrejected := hlent.change k.now (Change.reject _ e.connection)
          rw [add_right_comm] at hrejected
          have hbare := hrejected.of_add_doomed [e.connection]
          rcases hagain k ((Erred.error k.now (.refl _)).fit hbare) with ⟨q, hrest, hends⟩
          refine ⟨q, hclosing _ _ (drives_closingInvalid hrest), hends.after ?_ ?_⟩
          · exact dues_recordError _
          · exact hserves.trans (.of_slots rfl rfl rfl rfl rfl)

theorem serving (env : Surroundings) (purpose : CheckoutPurpose)
    (hfit : Fit p ({.slot .bare} + F)) (j : Journal) : Serving env purpose p j F := by
  -- By induction on the length of the queue: every failed probe makes it shorter.
  induction hlength : p.idle.length using Nat.strong_induction_on generalizing p j with
  | _ n ih =>
      rcases takeIdle_cases p j.now with
        ⟨expired, e, rest, hidle, hexpired, hlive, htake⟩ | ⟨hexpired, htake⟩
      · have hshorter : rest.length < n := by
          rw [← hlength, hidle, List.length_append, List.length_cons]
          omega
        apply serving_of_found hidle hexpired hlive htake hfit
        intro k hrejected
        exact ih rest.length hshorter hrejected _ rfl
      · have hswept : Fit p.afterSweep.addPending ({.slot .opening} + F) := hfit.afterSweep hexpired
        have hserve : env.serve p.config [] p.idle j =
            env.serve p.config [] [] (env.closeAll p.config j (p.idle.map (·.connection))) := by
          have happend := env.serve_append hexpired [] []
          rw [List.append_nil] at happend
          rw [happend]
          rfl
        rcases drives_opening (p := p.afterSweep.addPending) env purpose rfl rfl hswept
          (env.closeAll p.config j (p.idle.map (·.connection))) with ⟨q, hopening, hends⟩
        unfold Serving
        rw [hserve, begun_eq htake]
        refine ⟨q, ?_, hends.after rfl (.of_slots rfl rfl rfl rfl rfl)⟩
        exact Machine.Drives.closeThen (closes none) hopening

end Checkout
end PoolHealth
