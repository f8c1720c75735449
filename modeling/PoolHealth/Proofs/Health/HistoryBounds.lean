import PoolHealth.Count
import PoolHealth.Health.History
import PoolHealth.Proofs.Trace

/-!
# How much history is kept

A history grows at its end and loses entries at its front, so what it holds are always the newest
of all the entries that it was ever given.  A cleanup leaves as many of them as the settings allow
at most, and a history that has reached its floor never falls below it.
-/

namespace PoolHealth

inductive HistoryAction where
  | push (e : HistoryEntry)
  | record (r : CycleResult)
  | cleanup (now : Timestamp)

namespace HealthHistory

variable {c : HistoryConfig} {h h' : HealthHistory} {now cutoff : Timestamp} {n : Nat}

/-!
## One cleanup
-/

theorem length_drop_removable_le (c : HistoryConfig) (entries : List HistoryEntry)
    (cutoff : Timestamp) :
    (entries.drop (removable c entries cutoff)).length ≤ c.maxEntries.toNat := by
  rw [List.length_drop]
  have hfloor : floor c ≤ c.maxEntries.toNat := Nat.min_le_right _ _
  unfold removable surplus
  simp only
  split
  · split
    · omega
    · omega
  · omega

theorem floor_le_length_drop_removable {entries : List HistoryEntry} (cutoff : Timestamp)
    (hreached : floor c ≤ entries.length) :
    floor c ≤ (entries.drop (removable c entries cutoff)).length := by
  rw [List.length_drop]
  unfold removable
  simp only [if_pos hreached]
  omega

theorem cleanup?_eq (hcutoff : cutoff? h.config now = some cutoff) :
    h.cleanup? now =
      some ({ h with entries := h.entries.drop (removable h.config h.entries cutoff) },
        removable h.config h.entries cutoff) := by
  unfold cleanup?
  split
  · rename_i hempty
    have hnil : h.entries = [] := List.isEmpty_iff.mp hempty
    have hnothing : removable h.config h.entries cutoff = 0 := by
      have hle := removable_le h.config h.entries cutoff
      rw [hnil] at hle ⊢
      exact Nat.le_zero.mp hle
    rw [hnothing, List.drop_zero]
  · rw [hcutoff]
    rfl

structure CleanedUp (h h' : HealthHistory) (n : Nat) : Prop where
  /-- The oldest entries are gone and nothing else has changed. -/
  left : h' = { h with entries := h.entries.drop n }
  told : n + h'.entries.length = h.entries.length
  bounded : h'.entries.length ≤ h.config.maxEntries.toNat
  floored : floor h.config ≤ h.entries.length -> floor h.config ≤ h'.entries.length

theorem cleanedUp_removable (h : HealthHistory) (cutoff : Timestamp) :
    CleanedUp h { h with entries := h.entries.drop (removable h.config h.entries cutoff) }
      (removable h.config h.entries cutoff) where
  left := rfl
  told := by
    have hle := removable_le h.config h.entries cutoff
    rw [List.length_drop]
    exact Nat.add_sub_cancel' hle
  bounded := length_drop_removable_le h.config h.entries cutoff
  floored := floor_le_length_drop_removable cutoff

theorem cleanedUp_of_cleanup? (hcleanup : h.cleanup? now = some (h', n)) : CleanedUp h h' n := by
  cases hcutoff : cutoff? h.config now with
  | some cutoff =>
      rw [cleanup?_eq hcutoff] at hcleanup
      cases hcleanup
      exact cleanedUp_removable h cutoff
  | none =>
      -- Only an empty history is left alone without looking at the calendar.
      unfold cleanup? at hcleanup
      split at hcleanup
      · rename_i hempty
        have hnil : h.entries = [] := List.isEmpty_iff.mp hempty
        cases hcleanup
        exact ⟨rfl, Nat.zero_add _, by rw [hnil]; exact Nat.zero_le _, id⟩
      · rw [hcutoff] at hcleanup
        cases hcleanup

/-!
## Runs
-/

def ofConfig (c : HistoryConfig) : HealthHistory := { config := c }

def step (h : HealthHistory) : HistoryAction -> Option HealthHistory
  | .push e => some (h.push e)
  | .record r => some (h.record r)
  | .cleanup now => (h.cleanup? now).map fun e => e.1

abbrev Log := List (HealthHistory × HistoryAction)

abbrev Run : HealthHistory -> Log -> HealthHistory -> Prop := Trace step

def added (h : HealthHistory) : HistoryAction -> List HistoryEntry
  | .push e => [e]
  | .record r => [h.nextEntry r]
  | .cleanup _ => []

def dropped (h : HealthHistory) : HistoryAction -> Nat
  | .push _ | .record _ => 0
  | .cleanup now => ((h.cleanup? now).map fun e => e.2).getD 0

def allAdded (log : Log) : List HistoryEntry := log.flatMap fun e => e.1.added e.2

def allDropped (log : Log) : Nat := Count.total (log.map fun e => e.1.dropped e.2)

variable {a : HistoryAction} {log : Log}

theorem cleanedUp_of_step (hstep : h.step (.cleanup now) = some h') :
    CleanedUp h h' (h.dropped (.cleanup now)) := by
  rcases Option.map_eq_some_iff.mp hstep with ⟨e, hcleanup, rfl⟩
  have hdropped : h.dropped (.cleanup now) = e.2 := by
    simp only [dropped, hcleanup, Option.map_some, Option.getD_some]
  rw [hdropped]
  exact cleanedUp_of_cleanup? hcleanup

theorem config_step (hstep : h.step a = some h') : h'.config = h.config := by
  cases a with
  | push e | record r =>
      cases hstep
      rfl
  | cleanup now =>
      rw [(cleanedUp_of_step hstep).left]

theorem entries_step (hstep : h.step a = some h') :
    h'.entries = (h.entries ++ h.added a).drop (h.dropped a) ∧
      h.dropped a ≤ (h.entries ++ h.added a).length := by
  cases a with
  | push e | record r =>
      cases hstep
      exact ⟨rfl, Nat.zero_le _⟩
  | cleanup now =>
      have hcleaned := cleanedUp_of_step hstep
      have htold := hcleaned.told
      have hadded : h.added (.cleanup now) = [] := rfl
      rw [hadded, List.append_nil]
      constructor
      · rw [hcleaned.left]
      · omega

/-- No action takes a history that has reached the floor below it. -/
theorem floor_le_step (hstep : h.step a = some h')
    (hreached : floor h.config ≤ h.entries.length) : floor h.config ≤ h'.entries.length := by
  cases a with
  | push e | record r =>
      cases hstep
      apply Nat.le_trans hreached
      exact (List.sublist_append_left _ _).length_le
  | cleanup now =>
      exact (cleanedUp_of_step hstep).floored hreached

theorem Run.config_eq (hrun : Run h log h') : h'.config = h.config := by
  induction hrun with
  | done h =>
      rfl
  | act hstep _ ih =>
      rw [ih, config_step hstep]

theorem Run.floor_le (hrun : Run h log h') (hreached : floor h.config ≤ h.entries.length) :
    floor h.config ≤ h'.entries.length := by
  induction hrun with
  | done h =>
      exact hreached
  | act hstep _ ih =>
      rw [← config_step hstep] at hreached ⊢
      apply ih
      have hkept := floor_le_step hstep
      rw [← config_step hstep] at hkept
      exact hkept hreached

/-- The history holds the newest of its first entries and all that was added since. -/
theorem Run.entries_eq (hrun : Run h log h') :
    h'.entries = (h.entries ++ allAdded log).drop (allDropped log) ∧
      allDropped log ≤ (h.entries ++ allAdded log).length := by
  induction hrun with
  | done h =>
      have hnothing : allAdded [] = [] := rfl
      rw [hnothing, List.append_nil]
      exact ⟨rfl, Nat.zero_le _⟩
  | @act h g h' a log hstep _ ih =>
      rcases entries_step hstep with ⟨hentries, hle⟩
      rcases ih with ⟨hlast, hall⟩
      have hadded : allAdded ((h, a) :: log) = h.added a ++ allAdded log := rfl
      have hdropped : allDropped ((h, a) :: log) = h.dropped a + allDropped log := rfl
      have hlater : g.entries ++ allAdded log
          = (h.entries ++ h.added a ++ allAdded log).drop (h.dropped a) := by
        rw [hentries, List.drop_append_of_le_length hle]
      rw [hadded, hdropped, ← List.append_assoc]
      rw [hlater] at hlast hall
      constructor
      · rw [hlast, List.drop_drop]
      · rw [List.length_drop] at hall
        rw [List.length_append] at hall ⊢
        omega

structure WithinBounds (c : HistoryConfig) (log : Log) (h : HealthHistory) : Prop where
  /-- The history holds the newest of all entries that were added, in their order. -/
  newest : h.entries = (allAdded log).drop (allDropped log)
  counted : allDropped log + h.entries.length = (allAdded log).length
  /-- A cleanup is possible whenever the calendar reaches its cutoff.  It drops the oldest entries,
  tells how many, and leaves no more than the settings allow. -/
  cleansUp : forall now cutoff, cutoff? c now = some cutoff ->
    exists (h' : HealthHistory) (n : Nat), h.cleanup? now = some (h', n) ∧
      h'.entries = h.entries.drop n ∧ n + h'.entries.length = h.entries.length ∧
        h'.entries.length ≤ c.maxEntries.toNat
  /-- The floor is reached if it was at any time before. -/
  floored : forall e, e ∈ log -> floor c ≤ e.1.entries.length -> floor c ≤ h.entries.length

theorem Run.within_bounds (hrun : Run (ofConfig c) log h) : WithinBounds c log h := by
  have hconfig : h.config = c := hrun.config_eq
  subst hconfig
  rcases hrun.entries_eq with ⟨hentries, hle⟩
  have hfirst : (ofConfig h.config).entries = [] := rfl
  rw [hfirst, List.nil_append] at hentries hle
  constructor
  · exact hentries
  · have hlength := congrArg List.length hentries
    rw [List.length_drop] at hlength
    omega
  · intro now cutoff hcutoff
    have hcleaned := cleanedUp_removable h cutoff
    exact ⟨_, _, cleanup?_eq hcutoff, rfl, hcleaned.told, hcleaned.bounded⟩
  · intro e he hreached
    rcases Trace.split hrun he with ⟨before, later, g, _, hbefore, hstep, hlater⟩
    have hconfig : e.1.config = (ofConfig h.config).config := Run.config_eq hbefore
    have hkept := Run.floor_le (Trace.act hstep hlater)
    rw [hconfig] at hkept
    exact hkept hreached

def threeEntries : HistoryConfig := ⟨3, 7, 2⟩

def quietAt (seconds : Int) : HistoryEntry := ⟨⟨seconds, 0⟩, .healthy, []⟩

/-- Five entries are two too many.  The cleanup would drop four of them, and stops at the floor
of two.  After that comes another one. -/
def twoTooMany : List HistoryAction :=
  [.push (quietAt 0), .push (quietAt 1), .push (quietAt 2), .push (quietAt 3), .push (quietAt 4),
    .cleanup ⟨5, 0⟩, .push (quietAt 6)]

theorem within_bounds_at_floor : exists log h, Run (ofConfig threeEntries) log h ∧
    log.map (fun e => e.2) = twoTooMany ∧ h.entries = [quietAt 3, quietAt 4, quietAt 6] ∧
      WithinBounds threeEntries log h := by
  have hany : (Trace.compute step (ofConfig threeEntries) twoTooMany).any (fun h =>
      h.entries = [quietAt 3, quietAt 4, quietAt 6]) = true := by
    decide +kernel
  rcases Trace.exists_of_any hany with ⟨log, h, hrun, hactions, hentries⟩
  exact ⟨log, h, hrun, hactions, of_decide_eq_true hentries, Run.within_bounds hrun⟩

end HealthHistory
end PoolHealth
