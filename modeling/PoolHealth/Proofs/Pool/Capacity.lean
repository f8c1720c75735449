import PoolHealth.Proofs.Pool.Phases

/-!
# Capacity

The load of a pool is the number of connections that are open or being opened.  A
connection is opened for a slot when none is idle, and then there is room; or as long as
the load is below the least size.  There is a third way: a checkout that finds nothing but
expired connections decides to open one, closes the expired ones first, and does not look
again.  Meanwhile a health check may have filled the pool.

The load exceeds the greatest size in no other way, and never by more than one less than
the least size.
-/

namespace PoolHealth

open ConnectionPool Token

variable {law : Law} {now : Instant} {p q : ConnectionPool} {A B F : Multiset Token}

namespace ConnectionPool

def load (p : ConnectionPool) : Nat := p.stats.total + p.pending

def room (p : ConnectionPool) : Nat := p.config.maxSize.toNat

def excess (p : ConnectionPool) : Nat := p.config.minSize.toNat - 1

end ConnectionPool

theorem PoolConfig.minSize_le_of_fault?_eq_none {c : PoolConfig} (h : c.fault? = none) :
    c.minSize.toNat ≤ c.maxSize.toNat := by
  unfold fault? at h
  split at h
  · cases h
  · split at h
    · cases h
    · split at h
      · cases h
      · rename_i hsizes
        rw [UInt64.lt_iff_toNat_lt] at hsizes
        omega

namespace Token

/-- Every connection that counts has a slot, unless it is forgotten. -/
theorem tally_active_add_pending_le (held : Multiset Token) :
    tally active held + tally pending held + tally stale held
      ≤ tally slots held + tally unowned held := by
  rw [← tally_add_weights, ← tally_add_weights, ← tally_add_weights]
  apply tally_le_of_le
  intro t
  cases t with
  | slot u =>
      cases u with
      | bare | stale | opening | refilling =>
          simp
  | queued | lent c | forgotten c | retired c f | raw c f | lock u | checking =>
      simp

theorem tally_slots_le_guests (held : Multiset Token) : tally slots held ≤ tally guests held := by
  apply tally_le_of_le
  intro t
  cases t with
  | queued | slot u | lent c | forgotten c | retired c f | raw c f | lock u | checking =>
      simp

end Token

namespace Balanced

theorem stale_le (hb : Balanced p A) (howned : tally unowned A = 0) :
    tally stale A + p.slots.available ≤ p.room := by
  have hslots := hb.slots
  have hheld := tally_active_add_pending_le A
  unfold room
  omega

/-- Every connection that is not idle has a slot, or will have one. -/
theorem load_le (hb : Balanced p A) (howned : tally unowned A = 0) :
    p.load + tally stale A + p.slots.available ≤ p.room + p.idle.length := by
  have hslots := hb.slots
  have hpending := hb.pending
  have hactive := hb.active
  have htotal := hb.total
  have hheld := tally_active_add_pending_le A
  unfold load room
  omega

/-- Whoever has a slot and finds nothing idle may open a connection. -/
theorem room_of_slot (hb : Balanced p ({.slot .bare} + F)) (howned : tally unowned F = 0)
    (hnone : p.idle = []) : p.load + 1 + tally stale F ≤ p.room := by
  have hle := hb.after_releaseSlot.load_le howned
  rw [releaseSlot_eq] at hle
  simp only [load, room, Semaphore.available_release, hnone, List.length_nil] at hle ⊢
  omega

theorem load_of_no_guests (hb : Balanced p A) (howned : tally unowned A = 0)
    (hguests : tally guests A = 0) (hnone : p.idle = []) :
    p.load = 0 ∧ tally stale A = 0 := by
  have hpending := hb.pending
  have hactive := hb.active
  have htotal := hb.total
  have hheld := tally_active_add_pending_le A
  have hslots := tally_slots_le_guests A
  rw [hnone, List.length_nil] at htotal
  unfold load
  omega

end Balanced

theorem ConnectionPool.load_giveBack_le (p : ConnectionPool) (l : Lease) (background : Bool) :
    (p.giveBack now l background).load ≤ p.load := by
  rw [giveBack_eq]
  cases hkept : p.isReusable now l with
  | true =>
      exact Nat.le_refl _
  | false =>
      simp [load, recordClosures, dropActive]

/-- How the load can change: it does not grow, or it grows by one because a connection is
opened late, or there is room. -/
theorem Change.load_cases (hsizes : p.config.minSize.toNat ≤ p.config.maxSize.toNat)
    (hdrops : ¬law.drops) (h : Change law now p A q B) (hb : Balanced p (A + F))
    (hphased : Phased p (A + F)) (ho : Orderly p (A + F)) :
    (q.load ≤ p.load ∧ q.load + tally stale B ≤ p.load + tally stale A) ∨
      (law.late p ∧ q.load = p.load + 1 ∧ tally stale A = tally stale B + 1) ∨
      (q.load ≤ p.room ∧ q.load + tally stale (B + F) ≤ p.room + p.excess) := by
  have howned := ho.owned
  cases h with
  -- A connection is to be opened.
  | openLate hlate =>
      right
      left
      simp [load, addPending, hlate]
      omega
  | openAtOnce hnone =>
      right
      right
      have hroom := hb.room_of_slot (by simpa using howned) hnone
      simp [load, room, afterSweep, addPending, recordClosures, dropIdle, hnone] at hroom ⊢
      omega
  | reserve hmin hmax htaken =>
      right
      right
      have havailable := Semaphore.available_of_taken htaken
      have hstale := hb.stale_le howned
      simp [load, room, excess, addPending] at hstale ⊢
      omega
  | warmed hfew =>
      right
      right
      rcases ho.unused (Or.inr (hphased.warming (by simp))) with ⟨hguests, hnone⟩
      have hload := hb.load_of_no_guests howned hguests hnone
      rw [WarmUp.furnish_eq]
      simp [load, room] at hload ⊢
      omega
  | forget | lose | loseRaw | abandonLock =>
      contradiction
  -- A connection that is being opened counts already.
  | land | landIdle =>
      left
      have hpending := hb.pending
      simp at hpending
      simp [load, releaseSlot_eq, recordCreation, PoolStats.recordPeak, addActive, pushIdle,
        dropPending]
      omega
  -- Connections are closed, or they stay open.
  | found | evict | drain | reject =>
      left
      simp [-List.map_map, load, takeExpired_eq, takeAllIdle, closeSlots, afterPick, addActive,
        dropActive, recordClosures, dropIdle]
  | foundNone hsome =>
      left
      have htotal := hb.total
      have hlength : 0 < p.idle.length := List.length_pos_iff.mpr hsome
      simp [-List.map_map, load, afterSweep, recordClosures, dropIdle]
      omega
  | giveBack | strand =>
      left
      simpa using load_giveBack_le p _ _
  | handBack | openFailed | refillFailed | leaveLine | leaveLockLine | unlock =>
      left
      simp [load, releaseSlot_eq, leaveSlotQueue_eq, leaveLockQueue_eq, releaseLock_eq,
        dropPending]
  | _ =>
      left
      simp [load, addWaiter, dropWaiter, recordError, recordHit, recordWait, recordExhaustion,
        Checkup.report, emit, setPhase, closeSlots]

structure Sound (p : ConnectionPool) (held : Multiset Token) : Prop where
  balanced : Balanced p held
  phased : Phased p held
  orderly : Orderly p held
  sizes : p.config.minSize.toNat ≤ p.config.maxSize.toNat

theorem Sound.change (hdrops : ¬law.drops) (h : Change law now p A q B)
    (hp : Sound p (A + F)) : Sound q (B + F) where
  balanced := Balanced.change F h hp.balanced
  phased := Phased.change F h hp.phased
  orderly := Orderly.change hdrops h hp.phased hp.orderly
  sizes := by
    rw [h.config_eq]
    exact hp.sizes

structure Below (bound : Nat) (p : ConnectionPool) : Prop where
  load : p.load ≤ bound
  summit : p.audit.summit ≤ bound

theorem Below.change (hdrops : ¬law.drops) (hlate : forall p, law.late p -> p.load < p.room)
    (h : Change law now p A q B) (hp : Sound p (A + F)) (hbelow : Below p.room p) :
    Below q.room q := by
  have hroom : q.room = p.room := by
    unfold room
    rw [h.config_eq]
  have hload : q.load ≤ p.room := by
    have hbefore := hbelow.load
    rcases h.load_cases hp.sizes hdrops hp.balanced hp.phased hp.orderly with
      ⟨hle, _⟩ | ⟨hopens, hone, _⟩ | ⟨hle, _⟩
    · omega
    · have hless := hlate p hopens
      omega
    · exact hle
  have hsummit := h.summit_bounds.2
  have hbefore := hbelow.summit
  rw [hroom]
  refine ⟨hload, ?_⟩
  unfold ConnectionPool.load at hload
  omega

/-- The load exceeds the room by less than the least size, even together with the checkouts
that may still open a connection late. -/
structure Near (p : ConnectionPool) (held : Multiset Token) : Prop where
  load : p.load + tally stale held ≤ p.room + p.excess
  summit : p.audit.summit ≤ p.room + p.excess

theorem Near.change (hdrops : ¬law.drops) (h : Change law now p A q B) (hp : Sound p (A + F))
    (hnear : Near p (A + F)) : Near q (B + F) := by
  have hroom : q.room = p.room := by
    unfold room
    rw [h.config_eq]
  have hexcess : q.excess = p.excess := by
    unfold excess
    rw [h.config_eq]
  have hload : q.load + tally stale (B + F) ≤ p.room + p.excess := by
    have hbefore := hnear.load
    rw [tally_add] at hbefore ⊢
    rcases h.load_cases hp.sizes hdrops hp.balanced hp.phased hp.orderly with
      ⟨_, hle⟩ | ⟨_, hone, hstale⟩ | ⟨_, hle⟩
    · omega
    · omega
    · rw [tally_add] at hle
      exact hle
  have hsummit := h.summit_bounds.2
  have hbefore := hnear.summit
  constructor
  · rw [hroom, hexcess]
    exact hload
  · rw [hroom, hexcess]
    unfold ConnectionPool.load at hload
    omega

theorem Sound.ofConfig {c : PoolConfig} (hc : c.fault? = none) :
    Sound (ConnectionPool.ofConfig c) 0 where
  balanced := Balanced.ofConfig c
  phased := Phased.ofConfig c
  orderly := Orderly.ofConfig c
  sizes := PoolConfig.minSize_le_of_fault?_eq_none hc

theorem Sound.add_raws (cs : List Connection) (h : Sound p A) : Sound p (A + raws cs) where
  balanced := h.balanced.add_raws cs
  phased := by apply h.phased.congr <;> simp
  orderly := by apply h.orderly.keep <;> simp_all
  sizes := h.sizes

theorem Checkout.step_of_opensLate {k : Checkout} {r : Reply} (h : k.opensLate r = true)
    (purpose : CheckoutPurpose) (p : ConnectionPool) (now : Instant) :
    k.step purpose p now r = (p.addPending, .waiting (.opening .first)) := by
  unfold Checkout.opensLate at h
  split at h
  · rfl
  · rfl
  · cases h

namespace Traffic

structure WithinCapacity (s : Traffic) : Prop where
  total : s.pool.stats.total + s.pool.pending ≤ s.pool.config.maxSize.toNat
  split : s.pool.stats.active + s.pool.stats.idle ≤ s.pool.config.maxSize.toNat
  peak : s.pool.stats.peak ≤ s.pool.config.maxSize.toNat

variable {c : PoolConfig} {s t : Traffic} {log : Log}

/-- If connections are opened late only where there is room, the load stays within it. -/
theorem Run.stays_below (hc : c.fault? = none) (h : Run (ofConfig c) log t)
    (hundisturbed : Undisturbed log)
    (hlate : forall e, e ∈ log -> e.1.opensLate e.2 = true -> e.1.pool.load < e.1.pool.room) :
    Below t.pool.room t.pool := by
  have hlaw : forall e, e ∈ log -> Admits (.lateIn fun p => p.load < p.room) e := by
    intro e he
    exact ⟨hlate e he, fun i hdrop => absurd hdrop (hundisturbed e he i)⟩
  refine (h.keeps (.lateIn fun p => p.load < p.room)
    (I := fun p A => Sound p A ∧ Below p.room p) ?_ ?_ hlaw (settled_ofConfig c) ?_).2
  · intro now p q A B F hchange hp
    exact ⟨Sound.change not_false hchange hp.1,
      Below.change not_false (fun _ hless => hless) hchange hp.1 hp.2⟩
  · intro p A cs hp
    exact ⟨hp.1.add_raws cs, hp.2⟩
  · exact ⟨Sound.ofConfig hc, ⟨Nat.zero_le _, Nat.zero_le _⟩⟩

theorem Run.stays_near (hc : c.fault? = none) (h : Run (ofConfig c) log t)
    (hundisturbed : Undisturbed log) : Near t.pool t.held := by
  refine (h.keeps .undisturbed (I := fun p A => Sound p A ∧ Near p A) ?_ ?_
    (admits_of_undisturbed hundisturbed) (settled_ofConfig c) ?_).2
  · intro now p q A B F hchange hp
    exact ⟨Sound.change not_false hchange hp.1, Near.change not_false hchange hp.1 hp.2⟩
  · intro p A cs hp
    refine ⟨hp.1.add_raws cs, ?_, hp.2.summit⟩
    have hload := hp.2.load
    simpa using hload
  · exact ⟨Sound.ofConfig hc, ⟨Nat.zero_le _, Nat.zero_le _⟩⟩

theorem load_step_of_opensLate {a : Action} (hopens : s.opensLate a = true)
    (h : s.step a = some t) : t.pool.load = s.pool.load + 1 := by
  rcases step_cases h with
    ⟨d, rfl, _⟩ | ⟨request, rfl, _⟩ | ⟨i, r, x, p, xs, rfl, hx, hproceed, rfl⟩ | ⟨i, x, p, rfl, _⟩ |
    ⟨i, background, l, rfl, _⟩ | ⟨i, l, rfl, _⟩ | ⟨i, n, due, rfl, _⟩
  · cases hopens
  · cases hopens
  · have hchecks : exists k, x.checkout? = some k ∧ k.opensLate r = true := by
      simpa [opensLate, hx, Option.any_eq_true] using hopens
    rcases hchecks with ⟨k, hk, hlate⟩
    have hopened := proceed_of_checkout hk
      (fun purpose => Checkout.step_of_opensLate hlate purpose s.pool s.now) hproceed
    rw [adopt_pool, hopened.1]
    show s.pool.stats.total + (s.pool.pending + 1) = s.pool.stats.total + s.pool.pending + 1
    rw [Nat.add_assoc]
  · cases hopens
  · cases hopens
  · cases hopens
  · cases hopens

theorem Run.exists_undisturbed_prefix (h : Run (ofConfig c) log t)
    (hundisturbed : Undisturbed log) (hs : s ∈ visited log t) :
    exists before later, log = before ++ later ∧ Run (ofConfig c) before s ∧
      s.pool.config = c ∧ Undisturbed before := by
  rcases h.exists_run_of_mem_visited hs with ⟨before, later, hlog, hbefore⟩
  refine ⟨before, later, hlog, hbefore, hbefore.config_eq (settled_ofConfig c), ?_⟩
  intro e he
  apply hundisturbed e
  rw [hlog]
  exact List.mem_append_left later he

theorem Run.room_of_opensLate (h : Run (ofConfig c) log t)
    (hwithin : forall s, s ∈ visited log t -> s.WithinCapacity) {e : Traffic × Action}
    (he : e ∈ log) (hopens : e.1.opensLate e.2 = true) :
    e.1.pool.stats.total + e.1.pool.pending < c.maxSize.toNat := by
  rcases h.split he with ⟨before, later, u, hlog, hbefore, hstep, hlater⟩
  have hu : u ∈ visited log t := by
    rw [hlog, visited, List.map_append, List.append_assoc]
    apply List.mem_append_right
    rw [List.map_cons]
    exact List.mem_cons_of_mem _ hlater.mem_visited
  have hload := load_step_of_opensLate hopens hstep
  have hroom := (hwithin u hu).total
  rw [config_step (hbefore.settled (settled_ofConfig c)) hstep,
    hbefore.config_eq (settled_ofConfig c)] at hroom
  unfold load at hload
  have hconfig : (ofConfig c).pool.config = c := rfl
  rw [hconfig] at hroom
  omega

theorem Run.withinCapacity (hc : c.fault? = none) (h : Run (ofConfig c) log s)
    (hundisturbed : Undisturbed log)
    (hlate : forall e, e ∈ log -> e.1.opensLate e.2 = true ->
      e.1.pool.stats.total + e.1.pool.pending < c.maxSize.toNat) : s.WithinCapacity := by
  have hbelow : Below s.pool.room s.pool := by
    refine h.stays_below hc hundisturbed ?_
    intro e he hopens
    have hconfig : e.1.pool.config = c := by
      rcases h.split he with ⟨before, _, _, _, hbefore, _, _⟩
      exact hbefore.config_eq (settled_ofConfig c)
    unfold load room
    rw [hconfig]
    exact hlate e he hopens
  have hbalanced := h.balanced
  have hload := hbelow.load
  have hsummit := hbelow.summit
  unfold load room at hload
  unfold room at hsummit
  refine ⟨hload, ?_, ?_⟩
  · rw [hbalanced.idle, ← hbalanced.total]
    omega
  · rw [hbalanced.peak]
    exact hsummit

/-- As long as nothing is dropped, the greatest size of a pool is kept to throughout if and
only if no connection is opened late in a full pool.  It is exceeded by less than the least
size in any case. -/
theorem within_capacity_iff (hc : c.fault? = none) (h : Run (ofConfig c) log t)
    (hundisturbed : Undisturbed log) :
    ((forall s, s ∈ visited log t -> s.WithinCapacity) <->
        forall e, e ∈ log -> e.1.opensLate e.2 = true ->
          e.1.pool.stats.total + e.1.pool.pending < c.maxSize.toNat) ∧
      forall s, s ∈ visited log t ->
        s.pool.stats.total + s.pool.pending ≤ c.maxSize.toNat + (c.minSize.toNat - 1) ∧
          s.pool.stats.peak ≤ c.maxSize.toNat + (c.minSize.toNat - 1) := by
  constructor
  · constructor
    · intro hwithin e he hopens
      exact h.room_of_opensLate hwithin he hopens
    · intro hlate s hs
      rcases h.exists_undisturbed_prefix hundisturbed hs with
        ⟨before, later, hlog, hbefore, _, hquiet⟩
      refine hbefore.withinCapacity hc hquiet ?_
      intro e he
      apply hlate e
      rw [hlog]
      exact List.mem_append_left later he
  · intro s hs
    rcases h.exists_undisturbed_prefix hundisturbed hs with
      ⟨before, later, _, hbefore, hconfig, hquiet⟩
    have hnear := hbefore.stays_near hc hquiet
    have hload := hnear.load
    have hsummit := hnear.summit
    unfold load room excess at hload
    unfold room excess at hsummit
    rw [hconfig] at hload hsummit
    constructor
    · omega
    · rw [hbefore.balanced.peak]
      exact hsummit

def callerAmongExpired : List Action :=
  [.call .warmUp, .reply 0 (.created (.ok ⟨0⟩)), .reply 0 (.created (.ok ⟨1⟩)),
    .elapse (.ofMillis 150), .call .acquire]

/-- A health check fills the pool while the expired connections are closed. -/
def checkupMeanwhile : List Action :=
  [.call .checkup, .reply 2 (.created (.ok ⟨2⟩)), .reply 2 (.created (.ok ⟨3⟩)),
    .reply 2 (.validated true)]

def callerServed : List Action :=
  [.reply 1 (.closed (.ok ())), .reply 1 (.closed (.ok ())), .reply 1 (.created (.ok ⟨4⟩))]

/-- With a health check in the middle three connections are open in a pool of two. -/
theorem capacity_is_exceeded :
    pairConfig.fault? = none ∧
      exists log t, Run (ofConfig pairConfig) log t ∧
        log.map (fun e => e.2) = callerAmongExpired ++ checkupMeanwhile ++ callerServed ∧
        Undisturbed log ∧ t.pool.stats.total = 3 ∧ t.pool.stats.active = 1 ∧
        t.pool.stats.idle = 2 ∧ t.pool.stats.peak = 3 ∧ pairConfig.maxSize = 2 := by
  have hrun : ((ofConfig pairConfig).run
      (callerAmongExpired ++ checkupMeanwhile ++ callerServed)).any
      (fun t => t.pool.stats.total = 3 ∧ t.pool.stats.active = 1 ∧
        t.pool.stats.idle = 2 ∧ t.pool.stats.peak = 3 ∧ pairConfig.maxSize = 2) = true := by
    decide +kernel
  rcases exists_run_of_any hrun with ⟨log, t, h, hactions, hend⟩
  exact ⟨by decide +kernel, log, t, h, hactions, undisturbed_of_all hactions rfl,
    of_decide_eq_true hend⟩

/-- Without the health check the connection is opened late as well, but there is room. -/
theorem within_capacity_iff_alone :
    exists log t, Run (ofConfig pairConfig) log t ∧
      log.map (fun e => e.2) = callerAmongExpired ++ callerServed ∧
      t.pool.stats.total = 1 ∧
      ((forall s, s ∈ visited log t -> s.WithinCapacity) <->
        forall e, e ∈ log -> e.1.opensLate e.2 = true ->
          e.1.pool.stats.total + e.1.pool.pending < pairConfig.maxSize.toNat) := by
  have hrun : ((ofConfig pairConfig).run (callerAmongExpired ++ callerServed)).any
      (fun t => t.pool.stats.total = 1) = true := by
    decide +kernel
  rcases exists_run_of_any hrun with ⟨log, t, h, hactions, hend⟩
  have hquiet : Undisturbed log := undisturbed_of_all hactions rfl
  have hsettings : pairConfig.fault? = none := by decide +kernel
  exact ⟨log, t, h, hactions, of_decide_eq_true hend, (within_capacity_iff hsettings h hquiet).1⟩

end Traffic
end PoolHealth
