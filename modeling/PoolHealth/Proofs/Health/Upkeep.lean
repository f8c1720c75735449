import PoolHealth.Health.Service
import PoolHealth.Proofs.Health.HistoryBounds

/-!
# How far back a history can look

The calendar begins some two hundred and sixty thousand years ago.  A cleanup that has to go back
further breaks down, and so does a request for the entries of the last hours.  Accepted settings
allow for both, because nothing bounds the number of days from above.

A service cleans its history up in the background after every cycle.  If such a cleanup breaks down
nobody notices, and the history stays as it is.  So its length is bounded exactly if the cutoff of
every cleanup lies within the calendar.
-/

namespace PoolHealth

namespace Timestamp

/-- A time that a clock shows: not before 1970, and in a year of four digits. -/
def OnClock (t : Timestamp) : Prop :=
  0 ≤ t.seconds ∧ t.seconds ≤ Date.toDays ⟨9999, 12, 31⟩ * 86400 + 86399

def daysBefore1970 : Nat := (-Date.toDays ⟨Date.minYear, 1, 1⟩).toNat

def epoch : Timestamp := ⟨0, 0⟩

theorem onClock_epoch : epoch.OnClock := by
  unfold OnClock
  decide

theorem minSeconds_eq : minSeconds = -((daysBefore1970 * 86400 : Nat) : Int) := by
  decide

theorem isSome_minusSeconds?_iff {t : Timestamp} {n : Nat} (ht : t.OnClock) :
    (t.minusSeconds? n).isSome = true <-> minSeconds ≤ t.seconds - n := by
  have hlast : Date.toDays ⟨9999, 12, 31⟩ * 86400 + 86399 ≤ maxSeconds := by
    decide
  have hmax : t.seconds - n ≤ maxSeconds := by
    have hclock := ht.2
    omega
  unfold minusSeconds? inRange
  simp only [hmax, decide_true, Bool.and_true, decide_eq_true_eq]
  split
  · rename_i hreached
    exact iff_of_true rfl hreached
  · rename_i hmissed
    exact iff_of_false Bool.false_ne_true hmissed

/-- A span can be looked back over at all times if it can be at the first of them. -/
theorem forall_isSome_minusSeconds?_iff (n : Nat) :
    (forall t : Timestamp, t.OnClock -> (t.minusSeconds? n).isSome = true) <->
      n ≤ daysBefore1970 * 86400 := by
  constructor
  · intro hall
    have hfirst := (isSome_minusSeconds?_iff onClock_epoch).mp (hall epoch onClock_epoch)
    rw [minSeconds_eq] at hfirst
    have hzero : epoch.seconds = 0 := rfl
    omega
  · intro hle t ht
    rw [isSome_minusSeconds?_iff ht, minSeconds_eq]
    have hclock := ht.1
    omega

end Timestamp

open Timestamp (daysBefore1970 epoch onClock_epoch)

namespace HealthHistory

variable {c : HistoryConfig} {h : HealthHistory} {now : Timestamp}

theorem isSome_cleanup?_of_ne_nil (hsome : h.entries ≠ []) (now : Timestamp) :
    (h.cleanup? now).isSome = (cutoff? h.config now).isSome := by
  unfold cleanup?
  rw [if_neg (by rwa [List.isEmpty_iff]), Option.isSome_map]

theorem isSome_cleanup?_of_nil (hnone : h.entries = []) (now : Timestamp) :
    (h.cleanup? now).isSome = true := by
  unfold cleanup?
  rw [hnone]
  rfl

theorem forall_isSome_cutoff?_iff (c : HistoryConfig) :
    (forall now : Timestamp, now.OnClock -> (cutoff? c now).isSome = true) <->
      c.retentionDays.toNat ≤ daysBefore1970 := by
  have hspan := Timestamp.forall_isSome_minusSeconds?_iff (c.retentionDays.toNat * 86400)
  unfold cutoff?
  rw [hspan]
  omega

theorem forall_isSome_cleanup?_iff (c : HistoryConfig) :
    (forall (h : HealthHistory) (now : Timestamp), h.config = c -> now.OnClock ->
        (h.cleanup? now).isSome = true) <->
      c.retentionDays.toNat ≤ daysBefore1970 := by
  rw [← forall_isSome_cutoff?_iff]
  constructor
  · intro hall now hclock
    have hentry := hall ((ofConfig c).push ⟨epoch, .healthy, []⟩) now rfl hclock
    rw [isSome_cleanup?_of_ne_nil (List.cons_ne_nil _ _)] at hentry
    exact hentry
  · intro hall h now hconfig hclock
    by_cases hnone : h.entries = []
    · exact isSome_cleanup?_of_nil hnone now
    · rw [isSome_cleanup?_of_ne_nil hnone, hconfig]
      exact hall now hclock

theorem forall_isSome_lastHours?_iff (c : HistoryConfig) (hours : UInt32) :
    (forall (h : HealthHistory) (now : Timestamp), h.config = c -> now.OnClock ->
        (h.lastHours? now hours).isSome = true) <->
      hours.toNat ≤ daysBefore1970 * 24 := by
  have hspan := Timestamp.forall_isSome_minusSeconds?_iff (hours.toNat * 3600)
  unfold lastHours?
  simp only [Option.isSome_map]
  constructor
  · intro hall
    have hle := hspan.mp (hall (ofConfig c) · rfl)
    omega
  · intro hle h now _ hclock
    exact hspan.mpr (by omega) now hclock

theorem surplus_lt_of_fits (hfits : fits c = true) {len : Nat} (hroom : len ≤ maxRoom) :
    surplus c len < UInt64.size := by
  have hsum : c.maxEntries.toNat + c.cleanupBatchSize.toNat ≤ maxRoom := of_decide_eq_true hfits
  have hmax : maxRoom + maxRoom < UInt64.size := by
    decide
  unfold surplus
  split
  · omega
  · decide

end HealthHistory

/-!
## Cleanups in the background
-/

structure Upkeep where
  service : HealthService
  /-- The number of cleanups that have not run yet. -/
  due : Nat := 0

inductive UpkeepAction where
  /-- A cycle is over, and a cleanup is asked for. -/
  | publish (r : CycleResult)
  | tidy (now : Timestamp)

namespace Upkeep

def ofConfig (c : HealthConfig) : Upkeep where
  service := .ofConfig c

def length (u : Upkeep) : Nat := u.service.history.entries.length

def step (u : Upkeep) : UpkeepAction -> Option Upkeep
  | .publish r => some { service := u.service.publish r, due := u.due + 1 }
  | .tidy now =>
      if u.due = 0 then none
      else some { service := (u.service.cleanup? now).getD u.service, due := u.due - 1 }

abbrev Log := List (Upkeep × UpkeepAction)

abbrev Run : Upkeep -> Log -> Upkeep -> Prop := Trace step

def OnClock (log : Log) : Prop :=
  forall e now, e ∈ log -> e.2 = UpkeepAction.tidy now -> now.OnClock

variable {c : HealthConfig} {u v : Upkeep} {now : Timestamp} {log : Log}

theorem length_publish (s : HealthService) (r : CycleResult) :
    (s.publish r).history.entries.length = s.history.entries.length + 1 :=
  List.length_append

theorem history_cleanup? (s : HealthService) (now : Timestamp) :
    ((s.cleanup? now).getD s).history
      = ((s.history.cleanup? now).map fun e => e.1).getD s.history := by
  unfold HealthService.cleanup?
  cases s.history.cleanup? now with
  | none | some e =>
      rfl

theorem historyConfig_step {a : UpkeepAction} (hstep : u.step a = some v) :
    v.service.history.config = u.service.history.config := by
  cases a with
  | publish r =>
      cases hstep
      rfl
  | tidy now =>
      unfold step at hstep
      simp only at hstep
      split at hstep
      · cases hstep
      · cases hstep
        rw [history_cleanup?]
        cases hcleanup : u.service.history.cleanup? now with
        | none =>
            rfl
        | some e =>
            simp only [Option.map_some, Option.getD_some]
            rw [(HealthHistory.cleanedUp_of_cleanup? hcleanup).left]

theorem Run.historyConfig (hrun : Run (ofConfig c) log u) :
    u.service.history.config = c.history := by
  refine hrun.invariant (I := fun w => w.service.history.config = c.history) ?_ rfl
  intro s t a hs hstep
  rw [historyConfig_step hstep, hs]

theorem length_tidy_le (hreach : (u.service.history.cleanup? now).isSome = true)
    (hstep : u.step (.tidy now) = some v) :
    v.length ≤ u.service.history.config.maxEntries.toNat ∧ v.due + 1 = u.due := by
  unfold step at hstep
  simp only at hstep
  split at hstep
  · cases hstep
  · rename_i hdue
    cases hstep
    constructor
    · unfold length
      rw [history_cleanup?]
      rcases Option.isSome_iff_exists.mp hreach with ⟨e, hcleanup⟩
      rw [hcleanup]
      exact (HealthHistory.cleanedUp_of_cleanup? hcleanup).bounded
    · exact Nat.succ_pred hdue

/-- As long as the calendar reaches far enough, all that is too many are entries whose cleanups
have not run yet. -/
theorem Run.length_le (hrun : Run (ofConfig c) log u) (hclock : OnClock log)
    (hreach : c.history.retentionDays.toNat ≤ daysBefore1970) :
    u.length ≤ c.history.maxEntries.toNat + u.due := by
  have hall := (HealthHistory.forall_isSome_cleanup?_iff c.history).mpr hreach
  refine hrun.recorded (I := fun log u => OnClock log ->
    u.length ≤ c.history.maxEntries.toNat + u.due) ?_ ?_ hclock
  · intro _
    exact Nat.zero_le _
  · intro before t v a hbefore hlength hstep hclock
    have hearlier : OnClock before := by
      intro e now he
      exact hclock e now (List.mem_append_left _ he)
    have hprevious := hlength hearlier
    have hconfig := Run.historyConfig hbefore
    cases a with
    | publish r =>
        cases hstep
        have hmore : (Upkeep.mk (t.service.publish r) (t.due + 1)).length = t.length + 1 :=
          length_publish t.service r
        rw [hmore]
        exact Nat.succ_le_succ hprevious
    | tidy now =>
        have hnow : now.OnClock :=
          hclock (t, .tidy now) now (List.mem_append_right _ (List.mem_singleton_self _)) rfl
        have htidy := (length_tidy_le (hall _ now hconfig hnow) hstep).1
        rw [hconfig] at htidy
        exact Nat.le_trans htidy (Nat.le_add_right _ _)

/-- The length of the history is what the settings allow at most, save for the cycles that still
wait for their cleanup; and it is right after each cleanup. -/
def StaysBounded (c : HealthConfig) : Prop :=
  forall log u, Run (ofConfig c) log u -> OnClock log ->
    u.length ≤ c.history.maxEntries.toNat + u.due ∧
      forall now v, now.OnClock -> u.step (.tidy now) = some v ->
        v.length ≤ c.history.maxEntries.toNat

def idleCycle : CycleResult := .ofComponents epoch "" false .zero []

theorem onClock_concat (hlog : OnClock log) (hnow : now.OnClock) :
    OnClock (log ++ [(u, .publish idleCycle), (v, .tidy now)]) := by
  intro e t he ht
  rcases List.mem_append.mp he with he | he
  · exact hlog e t he ht
  · rcases List.mem_cons.mp he with rfl | he
    · cases ht
    · rw [List.mem_singleton.mp he] at ht
      cases ht
      exact hnow

/-- If the calendar does not reach the cutoff, entries are added and none is ever dropped. -/
theorem exists_run_of_length (hnow : now.OnClock)
    (hmissed : HealthHistory.cutoff? c.history now = none) (n : Nat) :
    exists log u, Run (ofConfig c) log u ∧ OnClock log ∧ u.due = 0 ∧ u.length = n := by
  induction n with
  | zero =>
      refine ⟨[], ofConfig c, Trace.done _, ?_, rfl, rfl⟩
      intro e t he
      cases he
  | succ n ih =>
      rcases ih with ⟨log, u, hrun, hlog, hdue, hlength⟩
      have hconfig : (u.service.publish idleCycle).history.config = c.history :=
        hrun.historyConfig
      have hsome : (u.service.publish idleCycle).history.entries ≠ [] :=
        List.append_ne_nil_of_right_ne_nil _ (List.cons_ne_nil _ _)
      have hbroken : (u.service.publish idleCycle).history.cleanup? now = none := by
        rw [← Option.not_isSome_iff_eq_none, HealthHistory.isSome_cleanup?_of_ne_nil hsome,
          hconfig, hmissed]
        exact Bool.false_ne_true
      have hkept : (u.service.publish idleCycle).cleanup? now = none := by
        unfold HealthService.cleanup?
        rw [hbroken]
        rfl
      have hpublish : u.step (.publish idleCycle)
          = some ⟨u.service.publish idleCycle, u.due + 1⟩ := rfl
      have htidy : (Upkeep.mk (u.service.publish idleCycle) (u.due + 1)).step (.tidy now)
          = some ⟨u.service.publish idleCycle, u.due⟩ := by
        unfold step
        simp only [hkept, Option.getD_none]
        exact if_neg (Nat.succ_ne_zero u.due)
      refine ⟨_, _, hrun.append (Trace.act hpublish (Trace.act htidy (Trace.done _))),
        onClock_concat hlog hnow, hdue, ?_⟩
      rw [← hlength]
      exact length_publish u.service idleCycle

theorem staysBounded_iff (c : HealthConfig) :
    StaysBounded c <-> c.history.retentionDays.toNat ≤ daysBefore1970 := by
  constructor
  · intro hbounded
    rw [← HealthHistory.forall_isSome_cutoff?_iff]
    intro now hnow
    cases hcutoff : HealthHistory.cutoff? c.history now with
    | some cutoff =>
        rfl
    | none =>
        rcases exists_run_of_length hnow hcutoff (c.history.maxEntries.toNat + 1) with
          ⟨log, u, hrun, hlog, hdue, hlength⟩
        have hle := (hbounded log u hrun hlog).1
        omega
  · intro hreach log u hrun hlog
    refine ⟨hrun.length_le hlog hreach, ?_⟩
    intro now v hnow hstep
    have hall := (HealthHistory.forall_isSome_cleanup?_iff c.history).mpr hreach
    have htidy := (length_tidy_le (hall _ now hrun.historyConfig hnow) hstep).1
    rw [hrun.historyConfig] at htidy
    exact htidy

end Upkeep

namespace HealthConfig

/-- How far the history of a service with these settings can be looked after. -/
structure Reach (c : HealthConfig) : Prop where
  /-- A cleanup comes through exactly if its cutoff lies in the calendar. -/
  cleansUp : forall (h : HealthHistory) (now : Timestamp), h.config = c.history ->
    h.entries ≠ [] -> now.OnClock ->
      ((h.cleanup? now).isSome = true <->
        Timestamp.minSeconds ≤ now.seconds - (c.history.retentionDays.toNat * 86400 : Nat))
  cleansUpAlways : (forall (h : HealthHistory) (now : Timestamp), h.config = c.history ->
    now.OnClock -> (h.cleanup? now).isSome = true) <->
      c.history.retentionDays.toNat ≤ daysBefore1970
  looksBackAlways : forall hours : UInt32,
    (forall (h : HealthHistory) (now : Timestamp), h.config = c.history -> now.OnClock ->
      (h.lastHours? now hours).isSome = true) <-> hours.toNat ≤ daysBefore1970 * 24
  counts : forall len, len ≤ HealthHistory.maxRoom ->
    HealthHistory.surplus c.history len < UInt64.size
  bounded : Upkeep.StaysBounded c <-> c.history.retentionDays.toNat ≤ daysBefore1970

theorem reach_of_fits {c : HealthConfig} (hfits : HealthHistory.fits c.history = true) :
    c.Reach where
  cleansUp := by
    intro h now hconfig hsome hnow
    rw [HealthHistory.isSome_cleanup?_of_ne_nil hsome, hconfig]
    exact Timestamp.isSome_minusSeconds?_iff hnow
  cleansUpAlways := HealthHistory.forall_isSome_cleanup?_iff c.history
  looksBackAlways := HealthHistory.forall_isSome_lastHours?_iff c.history
  counts := by
    intro len hroom
    exact HealthHistory.surplus_lt_of_fits hfits hroom
  bounded := Upkeep.staysBounded_iff c

theorem reach_of_standard : HealthHistory.fits standard.history = true ∧ standard.Reach :=
  ⟨by decide, reach_of_fits (by decide)⟩

theorem fault?_with_history {s : HealthConfig} {c : HistoryConfig} (hs : s.fault? = none)
    (hc : c.fault? = none) : { s with history := c }.fault? = none := by
  unfold fault? at hs ⊢
  rw [List.findSome?_eq_none_iff] at hs ⊢
  intro fault hfault
  simp only [List.mem_cons, List.not_mem_nil, or_false] at hs hfault
  rcases hfault with h | h | h | h | h | h
  · exact hs fault (Or.inl h)
  · exact hs fault (Or.inr (Or.inl h))
  · exact hs fault (Or.inr (Or.inr (Or.inl h)))
  · exact hs fault (Or.inr (Or.inr (Or.inr (Or.inl h))))
  · exact hs fault (Or.inr (Or.inr (Or.inr (Or.inr (Or.inl h)))))
  · rw [h]
    exact hc

/-- A history that is to be kept for longer than there are years in the calendar. -/
def longMemory : HistoryConfig := ⟨2, 4294967295, 1⟩

theorem cutoff_longMemory {now : Timestamp} (hnow : now.OnClock) :
    HealthHistory.cutoff? longMemory now = none := by
  have hspan : Date.toDays ⟨9999, 12, 31⟩ * 86400 + 86399
      < Timestamp.minSeconds + (longMemory.retentionDays.toNat * 86400 : Nat) := by
    decide
  unfold HealthHistory.cutoff?
  rw [← Option.not_isSome_iff_eq_none, Timestamp.isSome_minusSeconds?_iff hnow]
  have hlast := hnow.2
  omega

/-- These settings are accepted and a history with them can be made, but no cleanup of it ever
comes through, and its entries of the last hours cannot be had. -/
theorem accepted_but_out_of_reach : HealthHistory.fits longMemory = true ∧
    (forall s : HealthConfig, s.fault? = none -> { s with history := longMemory }.fault? = none) ∧
    (forall (h : HealthHistory) (now : Timestamp), h.config = longMemory -> h.entries ≠ [] ->
      now.OnClock -> h.cleanup? now = none ∧ h.lastHours? now 4294967295 = none) ∧
    forall s : HealthConfig, exists log u,
      Upkeep.Run (Upkeep.ofConfig { s with history := longMemory }) log u ∧ Upkeep.OnClock log ∧
        u.due = 0 ∧ longMemory.maxEntries.toNat < u.length := by
  refine ⟨by decide, ?_, ?_, ?_⟩
  · intro s hs
    exact fault?_with_history hs (by decide)
  · intro h now hconfig hsome hnow
    have hspan : Date.toDays ⟨9999, 12, 31⟩ * 86400 + 86399
        < Timestamp.minSeconds + ((4294967295 : UInt32).toNat * 3600 : Nat) := by
      decide
    have hlast := hnow.2
    constructor
    · rw [← Option.not_isSome_iff_eq_none, HealthHistory.isSome_cleanup?_of_ne_nil hsome, hconfig,
        cutoff_longMemory hnow]
      exact Bool.false_ne_true
    · unfold HealthHistory.lastHours?
      rw [Option.map_eq_none_iff, ← Option.not_isSome_iff_eq_none,
        Timestamp.isSome_minusSeconds?_iff hnow]
      omega
  · intro s
    have hmissed := cutoff_longMemory onClock_epoch
    rcases Upkeep.exists_run_of_length (c := { s with history := longMemory }) onClock_epoch hmissed
      (longMemory.maxEntries.toNat + 1) with ⟨log, u, hrun, hlog, hdue, hlength⟩
    refine ⟨log, u, hrun, hlog, hdue, ?_⟩
    rw [hlength]
    exact Nat.lt_succ_self _

end HealthConfig
end PoolHealth
