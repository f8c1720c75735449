import PoolHealth.Proofs.Pool.Dates
import Mathlib.Logic.Relation

/-!
# The queue of idle connections

Connections join the queue at its end, and they do so at the moment at which they were last used.
So the queue is in the order of last use, although connections are taken from it at the front and,
when they are expired, from anywhere.  A connection that joins is not expired: no timeout is zero,
and whoever gives a connection back looks at its age just as a search does.
-/

namespace PoolHealth

open ConnectionPool Relation Token

variable {law : Law} {now : Instant} {c : PoolConfig} {p q : ConnectionPool} {A B : Multiset Token}
variable {idle idle' : List IdleConnection} {e : IdleConnection}

theorem PoolConfig.timeouts_pos (h : c.fault? = none) {field : String} {d : Duration}
    (hmem : (field, d) ∈ c.timeouts) : 0 < d.nanos := by
  have hnone : c.timeouts.find? (fun t => t.2.isZero) = none := by
    unfold fault? at h
    repeat (split at h; · cases h)
    assumption
  have hzero := List.find?_eq_none.mp hnone _ hmem
  unfold Duration.isZero at hzero
  rw [beq_iff_eq] at hzero
  exact Nat.pos_of_ne_zero hzero

namespace ConnectionPool

/-- A connection is expired when its age reaches the longest lifetime, or when it was idle for the
longest time allowed. -/
theorem isExpired_iff (c : PoolConfig) (now : Instant) (e : IdleConnection) :
    isExpired c now e = true <->
      c.maxLifetime ≤ now.since e.createdAt ∨ c.idleTimeout ≤ now.since e.lastUsed := by
  have hsince : forall (d : Duration) (t : Instant),
      d ≤ now.since t <-> d.nanos ≤ now.nanosSince t := by
    intro d t
    have hle := d.nanos_le
    show d.nanos ≤ min (now.nanosSince t) 18446744073709551615999999999 <-> _
    omega
  unfold isExpired
  rw [Bool.or_eq_true, decide_eq_true_eq, decide_eq_true_eq, hsince, hsince]

/-- Who gives a connection back and who looks for one agree on when it is too old. -/
theorem isReusable_iff (hidle : 0 < p.config.idleTimeout.nanos) (l : Lease) :
    p.isReusable now l = true <->
      p.isReady = true ∧ l.broken = false ∧
        isExpired p.config now ⟨l.connection, l.createdAt, now⟩ = false := by
  have hnew : ¬p.config.idleTimeout.nanos ≤ now.nanosSince now := by
    unfold Instant.nanosSince
    omega
  unfold isReusable isExpired
  rw [Bool.and_eq_true, Bool.and_eq_true, Bool.not_eq_true', decide_eq_true_eq,
    decide_eq_false hnew, Bool.or_false, decide_eq_false_iff_not, Nat.not_le, and_assoc]

theorem isExpired_of_new (hlife : 0 < c.maxLifetime.nanos) (hidle : 0 < c.idleTimeout.nanos)
    (d : Connection) : isExpired c now ⟨d, now, now⟩ = false := by
  unfold isExpired Instant.nanosSince
  rw [Nat.sub_self, decide_eq_false (Nat.not_le.mpr hlife), decide_eq_false (Nat.not_le.mpr hidle)]
  rfl

theorem isExpired_of_used (hidle : 0 < c.idleTimeout.nanos) (hlive : isExpired c now e = false) :
    isExpired c now ⟨e.connection, e.createdAt, now⟩ = false := by
  unfold isExpired at hlive ⊢
  rw [Bool.or_eq_false_iff] at hlive ⊢
  refine ⟨hlive.1, decide_eq_false ?_⟩
  show ¬c.idleTimeout.nanos ≤ now.nanos - now.nanos
  omega

theorem fromFirstLive_append {expired rest : List IdleConnection}
    (hexpired : forall x, x ∈ expired -> isExpired c now x = true)
    (hlive : isExpired c now e = false) :
    fromFirstLive c now (expired ++ e :: rest) = e :: rest := by
  unfold fromFirstLive
  rw [List.dropWhile_append_of_pos hexpired, List.dropWhile_cons_of_neg]
  rw [hlive]
  exact Bool.false_ne_true

end ConnectionPool

/-!
## Changes of the queue
-/

/-- One change of the queue of idle connections at a time. -/
inductive Recycling (c : PoolConfig) (now : Instant) :
    List IdleConnection -> List IdleConnection -> Prop where
  /-- A connection that was used until now joins the queue. -/
  | join (idle : List IdleConnection) {e : IdleConnection} (hused : e.lastUsed = now)
      (hlive : isExpired c now e = false) : Recycling c now idle (idle ++ [e])
  /-- The expired ones in front are dropped, and the next one is taken. -/
  | take (idle : List IdleConnection) :
      Recycling c now idle ((fromFirstLive c now idle).drop 1)
  | evict (idle : List IdleConnection) :
      Recycling c now idle (idle.filter fun e => !isExpired c now e)
  | clear (idle : List IdleConnection) : Recycling c now idle []

namespace Recycling

/-- Nothing is moved, and only what joins is new. -/
theorem exists_append (h : Recycling c now idle idle') :
    exists kept joined, idle' = kept ++ joined ∧ kept.Sublist idle ∧ joined.length ≤ 1 ∧
      forall e, e ∈ joined -> e.lastUsed = now ∧ isExpired c now e = false := by
  cases h with
  | join =>
      rename_i e hused hlive
      refine ⟨idle, [e], rfl, List.Sublist.refl _, Nat.le_refl _, ?_⟩
      intro x hx
      rw [List.mem_singleton.mp hx]
      exact ⟨hused, hlive⟩
  | take =>
      refine ⟨_, [], (List.append_nil _).symm, ?_, Nat.zero_le _, fun _ hx => nomatch hx⟩
      exact (List.drop_sublist 1 _).trans (List.dropWhile_sublist _)
  | evict =>
      exact ⟨_, [], (List.append_nil _).symm, List.filter_sublist, Nat.zero_le _,
        fun _ hx => nomatch hx⟩
  | clear =>
      exact ⟨[], [], rfl, List.nil_sublist _, Nat.zero_le _, fun _ hx => nomatch hx⟩

theorem joins (hlife : 0 < c.maxLifetime.nanos) (hidle : 0 < c.idleTimeout.nanos)
    (idle : List IdleConnection) (opened : List Connection) :
    ReflTransGen (Recycling c now) idle
      (idle ++ opened.map fun d => ⟨d, now, now⟩) := by
  induction opened generalizing idle with
  | nil =>
      rw [List.map_nil, List.append_nil]
  | cons d rest ih =>
      have hjoin := join (c := c) idle (e := ⟨d, now, now⟩) rfl (isExpired_of_new hlife hidle d)
      have hrest := ih (idle ++ [⟨d, now, now⟩])
      rw [List.append_assoc] at hrest
      exact ReflTransGen.head hjoin hrest

theorem giveBack (hidle : 0 < p.config.idleTimeout.nanos) (l : Lease) (background : Bool) :
    ReflTransGen (Recycling p.config now) p.idle (p.giveBack now l background).idle := by
  rw [giveBack_eq]
  cases hback : p.isReusable now l with
  | true =>
      rcases (isReusable_iff hidle l).mp hback with ⟨_, _, hlive⟩
      exact ReflTransGen.single (join p.idle rfl hlive)
  | false =>
      simp [ReflTransGen.refl]

end Recycling

theorem Change.recycling (hlife : 0 < p.config.maxLifetime.nanos)
    (hidle : 0 < p.config.idleTimeout.nanos) (h : Change law now p A q B) :
    ReflTransGen (Recycling p.config now) p.idle q.idle := by
  have hstays : q.idle = p.idle -> ReflTransGen (Recycling p.config now) p.idle q.idle := by
    intro heq
    rw [heq]
  cases h with
  | found hsplit hexpired hlive =>
      rename_i expired rest e
      have htake : Recycling p.config now p.idle ((fromFirstLive p.config now p.idle).drop 1) :=
        Recycling.take p.idle
      rw [hsplit, fromFirstLive_append hexpired hlive] at htake
      rw [hsplit]
      exact ReflTransGen.single htake
  | foundNone hsome hexpired =>
      exact ReflTransGen.single (Recycling.clear p.idle)
  | openAtOnce hnone =>
      exact ReflTransGen.single (Recycling.clear p.idle)
  | drain =>
      exact ReflTransGen.single (Recycling.clear p.idle)
  | evict =>
      rw [takeExpired_eq]
      exact ReflTransGen.single (Recycling.evict p.idle)
  | landIdle d =>
      rw [releaseSlot_eq]
      exact ReflTransGen.single (Recycling.join p.idle rfl (isExpired_of_new hlife hidle d))
  | giveBack | strand =>
      exact Recycling.giveBack hidle _ _
  | warmed =>
      rw [WarmUp.furnish_eq]
      exact Recycling.joins hlife hidle p.idle _
  | handBack | forget | openFailed | refillFailed | leaveLine | leaveLockLine | unlock
  | abandonLock =>
      apply hstays
      simp [releaseSlot_eq, leaveSlotQueue_eq, leaveLockQueue_eq, releaseLock_eq, dropPending]
  | _ =>
      exact hstays rfl

theorem Changes.recycling (hlife : 0 < p.config.maxLifetime.nanos)
    (hidle : 0 < p.config.idleTimeout.nanos) (h : Changes law now p A q B) :
    ReflTransGen (Recycling p.config now) p.idle q.idle := by
  induction h with
  | refl =>
      exact ReflTransGen.refl
  | step F hfirst _ ih =>
      have hsame := hfirst.config_eq
      rw [hsame] at ih
      exact (hfirst.recycling hlife hidle).trans (ih hlife hidle)

/-!
## What changes keep
-/

structure Ordered (now : Instant) (idle : List IdleConnection) : Prop where
  sorted : idle.Pairwise fun e e' => e.lastUsed ≤ e'.lastUsed
  past : forall e, e ∈ idle -> e.lastUsed ≤ now

theorem Ordered.recycling (h : Ordered now idle) (hchange : Recycling c now idle idle') :
    Ordered now idle' := by
  rcases hchange.exists_append with ⟨kept, joined, rfl, hkept, hfew, hjoined⟩
  have hpast : forall e, e ∈ kept -> e.lastUsed ≤ now := fun e he => h.past e (hkept.subset he)
  constructor
  · refine List.pairwise_append.mpr ⟨h.sorted.sublist hkept, ?_, ?_⟩
    · match joined with
      | [] =>
          exact List.Pairwise.nil
      | [e] =>
          exact List.pairwise_singleton _ e
    · intro e he e' he'
      rw [(hjoined e' he').1]
      exact hpast e he
  · intro e he
    rcases List.mem_append.mp he with he | he
    · exact hpast e he
    · rw [(hjoined e he).1]
      exact Nat.le_refl _

theorem Ordered.recyclings (h : Ordered now idle)
    (hchanges : ReflTransGen (Recycling c now) idle idle') : Ordered now idle' := by
  induction hchanges with
  | refl =>
      exact h
  | tail _ hlast ih =>
      exact ih.recycling hlast

theorem Recycling.mem_cases (hchanges : ReflTransGen (Recycling c now) idle idle')
    (he : e ∈ idle') : e ∈ idle ∨ e.lastUsed = now ∧ isExpired c now e = false := by
  induction hchanges with
  | refl =>
      exact Or.inl he
  | tail _ hlast ih =>
      rcases hlast.exists_append with ⟨kept, joined, rfl, hkept, _, hjoined⟩
      rcases List.mem_append.mp he with he | he
      · exact ih (hkept.subset he)
      · exact Or.inr (hjoined e he)

/-!
## All runs
-/

namespace Traffic

variable {s t : Traffic} {a : Action} {log : Log}

theorem recycles_step (hc : s.pool.config.fault? = none) (hs : s.Settled)
    (hstep : s.step a = some t) :
    ReflTransGen (Recycling s.pool.config s.now) s.pool.idle t.pool.idle := by
  have hchanges : Changes .any s.now s.pool (s.held + raws a.arrivals) t.pool t.held :=
    changes_step hs (fun _ => trivial) (fun _ _ => trivial) hstep
  have hlife : 0 < s.pool.config.maxLifetime.nanos :=
    PoolConfig.timeouts_pos hc (List.mem_of_getElem? (i := 2) rfl)
  have hidle : 0 < s.pool.config.idleTimeout.nanos :=
    PoolConfig.timeouts_pos hc (List.mem_of_getElem? (i := 1) rfl)
  exact hchanges.recycling hlife hidle

/-- What is true of the queue in every state that can be reached. -/
structure Shelved (c : PoolConfig) (s : Traffic) : Prop where
  settled : s.Settled
  config : s.pool.config = c
  past : s.Past
  ordered : Ordered s.now s.pool.idle
  aged : forall e, e ∈ s.pool.idle -> e.createdAt ≤ e.lastUsed

theorem shelved_ofConfig (c : PoolConfig) : Shelved c (ofConfig c) where
  settled := settled_ofConfig c
  config := rfl
  past := past_ofConfig c
  ordered := ⟨List.Pairwise.nil, fun _ he => nomatch he⟩
  aged := fun _ he => nomatch he

theorem Shelved.mem_cases (h : Shelved c s) (hc : c.fault? = none) (hstep : s.step a = some t)
    (he : e ∈ t.pool.idle) :
    e ∈ s.pool.idle ∨
      e.createdAt ≤ s.now ∧ e.lastUsed = s.now ∧ isExpired c s.now e = false := by
  have hfault := hc
  rw [← h.config] at hfault
  rcases Recycling.mem_cases (recycles_step hfault h.settled hstep) he with hold | ⟨hused, hlive⟩
  · exact Or.inl hold
  · rw [h.config] at hlive
    have hdated := (h.past s.now (Nat.le_refl _)).step (Nat.le_refl _) hstep
    exact Or.inr ⟨hdated.pool e he, hused, hlive⟩

theorem Shelved.step (h : Shelved c s) (hc : c.fault? = none) (hstep : s.step a = some t) :
    Shelved c t where
  settled := settled_step h.settled hstep
  config := (config_step h.settled hstep).trans h.config
  past := h.past.step hstep
  ordered := by
    have hfault := hc
    rw [← h.config] at hfault
    rcases h.ordered.recyclings (recycles_step hfault h.settled hstep) with ⟨hsorted, hpast⟩
    exact ⟨hsorted, fun e he => Nat.le_trans (hpast e he) (now_le_of_step hstep)⟩
  aged := by
    intro e he
    rcases h.mem_cases hc hstep he with hold | ⟨hopened, hused, _⟩
    · exact h.aged e hold
    · rw [hused]
      exact hopened

structure Recycles (s : Traffic) : Prop where
  sorted : s.pool.idle.Pairwise fun e e' => e.lastUsed ≤ e'.lastUsed
  aged : forall e, e ∈ s.pool.idle -> e.createdAt ≤ e.lastUsed ∧ e.lastUsed ≤ s.now
  changes : forall a t, s.step a = some t ->
    ReflTransGen (Recycling s.pool.config s.now) s.pool.idle t.pool.idle
  joined : forall a t e, s.step a = some t -> e ∈ t.pool.idle ->
    e ∈ s.pool.idle ∨
      e.createdAt ≤ s.now ∧ e.lastUsed = s.now ∧ isExpired s.pool.config s.now e = false
  taken : forall now,
    (exists expired e rest, s.pool.idle = expired ++ e :: rest ∧
      (forall x, x ∈ expired -> isExpired s.pool.config now x = true) ∧
      isExpired s.pool.config now e = false ∧ (s.pool.takeIdle now).1.idle = rest ∧
      (s.pool.takeIdle now).2 = (some e, expired.map (·.connection))) ∨
    (forall x, x ∈ s.pool.idle -> isExpired s.pool.config now x = true) ∧
      (s.pool.takeIdle now).1.idle = [] ∧
      (s.pool.takeIdle now).2 = (none, s.pool.idle.map (·.connection))
  evicted : forall now,
    (s.pool.takeExpired now).1.idle =
        s.pool.idle.filter (fun e => !isExpired s.pool.config now e) ∧
      (s.pool.takeExpired now).2 =
        (s.pool.idle.filter (isExpired s.pool.config now)).map (·.connection) ∧
      (s.pool.takeExpired now).1.stats.closures =
        s.pool.stats.closures + (s.pool.takeExpired now).2.length
  expired_iff : forall now e, isExpired s.pool.config now e = true <->
    s.pool.config.maxLifetime ≤ now.since e.createdAt ∨
      s.pool.config.idleTimeout ≤ now.since e.lastUsed

theorem Run.recycles (hc : c.fault? = none) (h : Run (ofConfig c) log t) : t.Recycles := by
  have hshelved : Shelved c t :=
    h.invariant (fun hs hstep => hs.step hc hstep) (shelved_ofConfig c)
  constructor
  · exact hshelved.ordered.sorted
  · intro e he
    exact ⟨hshelved.aged e he, hshelved.ordered.past e he⟩
  · intro a u hstep
    rw [← hshelved.config] at hc
    exact recycles_step hc hshelved.settled hstep
  · intro a u e hstep he
    rw [hshelved.config]
    exact hshelved.mem_cases hc hstep he
  · intro now
    rcases takeIdle_cases t.pool now with
      ⟨expired, e, rest, hidle, hexpired, hlive, htake⟩ | ⟨hexpired, htake⟩
    · rw [htake]
      exact Or.inl ⟨expired, e, rest, hidle, hexpired, hlive, rfl, rfl⟩
    · rw [htake]
      exact Or.inr ⟨hexpired, rfl, rfl⟩
  · intro now
    rw [takeExpired_eq]
    refine ⟨rfl, rfl, ?_⟩
    rw [List.length_map]
    rfl
  · exact isExpired_iff t.pool.config

def oneLoan : List Action :=
  [.call .warmUp, .reply 0 (.created (.ok ⟨0⟩)), .reply 0 (.created (.ok ⟨1⟩)),
    .elapse (.ofMillis 50), .call .acquire, .reply 1 (.validated true), .giveBack 1 true,
    .elapse (.ofMillis 60)]

/-- The connection that was lent is the last one now, and the other one is expired. -/
theorem recycles_after_one_loan :
    pairConfig.fault? = none ∧
      exists log t, Run (ofConfig pairConfig) log t ∧ log.map (fun e => e.2) = oneLoan ∧
        t.pool.idle = [⟨⟨1⟩, ⟨0⟩, ⟨0⟩⟩, ⟨⟨0⟩, ⟨0⟩, .ofMillis 50⟩] ∧
        (t.pool.takeIdle t.now).2 = (some ⟨⟨0⟩, ⟨0⟩, .ofMillis 50⟩, [⟨1⟩]) ∧ t.Recycles := by
  have hsettings : pairConfig.fault? = none := by decide +kernel
  have hrun : ((ofConfig pairConfig).run oneLoan).any
      (fun t => t.pool.idle = [⟨⟨1⟩, ⟨0⟩, ⟨0⟩⟩, ⟨⟨0⟩, ⟨0⟩, .ofMillis 50⟩] ∧
        (t.pool.takeIdle t.now).2 = (some ⟨⟨0⟩, ⟨0⟩, .ofMillis 50⟩, [⟨1⟩])) = true := by
    decide +kernel
  rcases exists_run_of_any hrun with ⟨log, t, h, hactions, hend⟩
  rcases of_decide_eq_true hend with ⟨hidle, htake⟩
  exact ⟨hsettings, log, t, h, hactions, hidle, htake, Run.recycles hsettings h⟩

end Traffic
end PoolHealth
