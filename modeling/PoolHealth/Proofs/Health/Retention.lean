import PoolHealth.Proofs.Health.HistoryBounds

/-!
# Which old entries stay in a history

A cleanup looks for outdated entries at the front of a history and stops at the first one that is
not outdated.  As long as the clock never steps back, nothing outdated stands behind that one.
Otherwise an outdated entry may be sheltered by an older neighbour with a later timestamp, and then
the cleanup leaves it where it is.

This is all that can go wrong.  The entries that a cleanup overlooks are characterised here, and so
are the cleanups after which another one at the same time drops something.
-/

namespace PoolHealth

namespace Timestamp

theorem before_of_before_of_not_before {a b cutoff : Timestamp} (hb : b.before cutoff = true)
    (ha : a.before cutoff = false) : b.before a = true := by
  unfold before at hb ha ⊢
  simp only [Bool.or_eq_true, Bool.and_eq_true, Bool.or_eq_false_iff, Bool.and_eq_false_imp,
    decide_eq_true_eq, decide_eq_false_iff_not, beq_iff_eq] at hb ha ⊢
  omega

end Timestamp

namespace HealthHistory

variable {c : HistoryConfig} {h : HealthHistory} {now cutoff : Timestamp}
  {entries : List HistoryEntry} {log : Log}

def OutdatedAt (cutoff : Timestamp) (entries : List HistoryEntry) (i : Nat) : Prop :=
  exists e, entries[i]? = some e ∧ e.timestamp.before cutoff = true

def FreshAt (cutoff : Timestamp) (entries : List HistoryEntry) (i : Nat) : Prop :=
  exists e, entries[i]? = some e ∧ e.timestamp.before cutoff = false

theorem not_outdatedAt_of_freshAt {i : Nat} (hfresh : FreshAt cutoff entries i) :
    ¬ OutdatedAt cutoff entries i := by
  rintro ⟨e, he, hbefore⟩
  rcases hfresh with ⟨f, hf, hnot⟩
  rw [he] at hf
  cases hf
  rw [hbefore] at hnot
  cases hnot

theorem outdatedAt_or_freshAt {i : Nat} (hi : i < entries.length) :
    OutdatedAt cutoff entries i ∨ FreshAt cutoff entries i := by
  cases hbefore : entries[i].timestamp.before cutoff with
  | true =>
      exact Or.inl ⟨entries[i], List.getElem?_eq_getElem hi, hbefore⟩
  | false =>
      exact Or.inr ⟨entries[i], List.getElem?_eq_getElem hi, hbefore⟩

/-!
## The front of a history
-/

theorem drop_outdated (cutoff : Timestamp) (entries : List HistoryEntry) :
    entries.drop (outdated entries cutoff)
      = entries.dropWhile fun e => e.timestamp.before cutoff := by
  have hsplit := List.takeWhile_append_dropWhile (p := fun e : HistoryEntry =>
    e.timestamp.before cutoff) (l := entries)
  have hdrop := congrArg (List.drop (outdated entries cutoff)) hsplit
  unfold outdated at hdrop ⊢
  rw [List.drop_left] at hdrop
  exact hdrop.symm

theorem outdatedAt_of_lt {i : Nat} (hi : i < outdated entries cutoff) :
    OutdatedAt cutoff entries i := by
  have hfront := List.takeWhile_prefix (l := entries)
    (fun e : HistoryEntry => e.timestamp.before cutoff)
  have hall : (entries.takeWhile fun e => e.timestamp.before cutoff).all
      (fun e => e.timestamp.before cutoff) = true := List.all_takeWhile
  refine ⟨(entries.takeWhile fun e => e.timestamp.before cutoff)[i], ?_, ?_⟩
  · rw [hfront.getElem hi]
    exact List.getElem?_eq_getElem _
  · exact List.all_eq_true.mp hall _ (List.getElem_mem hi)

/-- The entry at which the counting of outdated ones stops. -/
theorem freshAt_outdated (hmore : outdated entries cutoff < entries.length) :
    FreshAt cutoff entries (outdated entries cutoff) := by
  have hcases : OutdatedAt cutoff entries (outdated entries cutoff) ∨
      FreshAt cutoff entries (outdated entries cutoff) := outdatedAt_or_freshAt hmore
  rcases hcases with ⟨e, he, hbefore⟩ | hfresh
  · have hhead := List.head?_dropWhile_not
      (fun e : HistoryEntry => e.timestamp.before cutoff) entries
    rw [← drop_outdated, List.head?_drop, he] at hhead
    simp only [hbefore] at hhead
    cases hhead
  · exact hfresh

theorem outdated_le_of_freshAt {j : Nat} (hfresh : FreshAt cutoff entries j) :
    outdated entries cutoff ≤ j := by
  apply Nat.le_of_not_lt
  intro hlt
  exact not_outdatedAt_of_freshAt hfresh (outdatedAt_of_lt hlt)

theorem outdated_eq_zero_iff :
    outdated entries cutoff = 0 <-> ¬ OutdatedAt cutoff entries 0 := by
  constructor
  · rintro hnone ⟨e, he, hbefore⟩
    have hlength : 0 < entries.length := (List.getElem?_eq_some_iff.mp he).1
    rw [← hnone] at hlength
    have hfresh := freshAt_outdated hlength
    rw [hnone] at hfresh
    exact not_outdatedAt_of_freshAt hfresh ⟨e, he, hbefore⟩
  · intro hnot
    apply Nat.eq_zero_of_not_pos
    intro hsome
    exact hnot (outdatedAt_of_lt hsome)

theorem outdatedAt_drop {n i : Nat} :
    OutdatedAt cutoff (entries.drop n) i <-> OutdatedAt cutoff entries (n + i) := by
  unfold OutdatedAt
  rw [List.getElem?_drop]

/-!
## What one cleanup leaves
-/

def wanted (c : HistoryConfig) (entries : List HistoryEntry) (cutoff : Timestamp) : Nat :=
  max (surplus c entries.length) (outdated entries cutoff)

/-- The floor does not keep a cleanup from dropping all that it wants to drop. -/
def ClearsFloor (c : HistoryConfig) (entries : List HistoryEntry) (cutoff : Timestamp) : Prop :=
  wanted c entries cutoff + floor c < entries.length

def tidied (c : HistoryConfig) (entries : List HistoryEntry) (cutoff : Timestamp) :
    List HistoryEntry :=
  entries.drop (removable c entries cutoff)

theorem surplus_eq_zero {len : Nat} (hle : len ≤ c.maxEntries.toNat) : surplus c len = 0 :=
  if_neg (Nat.not_lt.mpr hle)

theorem floor_le_maxEntries (c : HistoryConfig) : floor c ≤ c.maxEntries.toNat :=
  Nat.min_le_right _ _

theorem removable_of_clearsFloor (hclears : ClearsFloor c entries cutoff) :
    removable c entries cutoff = wanted c entries cutoff := by
  unfold ClearsFloor wanted at hclears
  unfold removable wanted
  simp only
  rw [if_pos (by omega)]
  omega

theorem removable_of_floor_le (hclears : ¬ ClearsFloor c entries cutoff)
    (hreached : floor c ≤ entries.length) :
    removable c entries cutoff = entries.length - floor c := by
  unfold ClearsFloor wanted at hclears
  unfold removable
  simp only
  rw [if_pos hreached]
  omega

theorem removable_of_lt_floor (hfew : entries.length < floor c) :
    removable c entries cutoff = outdated entries cutoff := by
  have hnone : surplus c entries.length = 0 :=
    surplus_eq_zero (Nat.le_trans (Nat.le_of_lt hfew) (floor_le_maxEntries c))
  have hle : outdated entries cutoff ≤ entries.length :=
    (List.takeWhile_sublist _).length_le
  unfold removable
  simp only
  rw [if_neg (Nat.not_le.mpr hfew), hnone]
  omega

theorem length_tidied_le_floor_iff :
    (tidied c entries cutoff).length ≤ floor c <-> ¬ ClearsFloor c entries cutoff := by
  unfold tidied
  rw [List.length_drop]
  constructor
  · intro hle hclears
    rw [removable_of_clearsFloor hclears] at hle
    unfold ClearsFloor at hclears
    omega
  · intro hclears
    by_cases hreached : floor c ≤ entries.length
    · rw [removable_of_floor_le hclears hreached]
      omega
    · omega

/-- An outdated entry that a cleanup overlooks: an entry in front of it is not outdated, the size
of the history does not call for its removal, and neither does the floor save it. -/
structure Overlooked (c : HistoryConfig) (cutoff : Timestamp) (entries : List HistoryEntry)
    (i : Nat) : Prop where
  old : OutdatedAt cutoff entries i
  sheltered : exists j, j < i ∧ FreshAt cutoff entries j
  spared : surplus c entries.length ≤ i
  unfloored : ClearsFloor c entries cutoff

/-- What a cleanup is to leave: the floor at most, or nothing that is outdated. -/
def Retained (c : HistoryConfig) (cutoff : Timestamp) (entries : List HistoryEntry) : Prop :=
  entries.length ≤ floor c ∨ forall e, e ∈ entries -> e.timestamp.before cutoff = false

theorem Overlooked.wanted_le {i : Nat} (hover : Overlooked c cutoff entries i) :
    wanted c entries cutoff ≤ i := by
  rcases hover.sheltered with ⟨j, hj, hfresh⟩
  have hfront := outdated_le_of_freshAt hfresh
  have hspared := hover.spared
  unfold wanted
  omega

/-- An outdated entry that a cleanup does not drop stands behind the one at which it stopped
counting. -/
theorem overlooked_of_outdatedAt {i : Nat} (hclears : ClearsFloor c entries cutoff)
    (hle : wanted c entries cutoff ≤ i) (hold : OutdatedAt cutoff entries i) :
    Overlooked c cutoff entries i := by
  have hbounds : surplus c entries.length ≤ i ∧ outdated entries cutoff ≤ i := by
    unfold wanted at hle
    omega
  rcases hold with ⟨e, he, hbefore⟩
  have hi : i < entries.length := (List.getElem?_eq_some_iff.mp he).1
  have hfresh := freshAt_outdated (Nat.lt_of_le_of_lt hbounds.2 hi)
  have hne : outdated entries cutoff ≠ i := by
    intro heq
    rw [heq] at hfresh
    exact not_outdatedAt_of_freshAt hfresh ⟨e, he, hbefore⟩
  exact ⟨⟨e, he, hbefore⟩, ⟨_, Nat.lt_of_le_of_ne hbounds.2 hne, hfresh⟩, hbounds.1, hclears⟩

theorem retained_tidied_iff :
    Retained c cutoff (tidied c entries cutoff) <->
      forall i, ¬ Overlooked c cutoff entries i := by
  constructor
  · rintro (hfew | hfresh) i hover
    · exact length_tidied_le_floor_iff.mp hfew hover.unfloored
    · rcases hover.old with ⟨e, he, hbefore⟩
      have hkept : e ∈ tidied c entries cutoff := by
        unfold tidied
        rw [removable_of_clearsFloor hover.unfloored, List.mem_drop_iff_getElem]
        rcases List.getElem?_eq_some_iff.mp he with ⟨hi, hget⟩
        have hle := hover.wanted_le
        refine ⟨i - wanted c entries cutoff, ?_, ?_⟩
        · omega
        · simp only [Nat.add_sub_cancel' hle]
          exact hget
      rw [hfresh e hkept] at hbefore
      cases hbefore
  · intro hnone
    by_cases hclears : ClearsFloor c entries cutoff
    · right
      intro e he
      unfold tidied at he
      rw [removable_of_clearsFloor hclears, List.mem_drop_iff_getElem] at he
      rcases he with ⟨i, hi, hget⟩
      cases hbefore : e.timestamp.before cutoff with
      | false =>
          rfl
      | true =>
          have hold : OutdatedAt cutoff entries (wanted c entries cutoff + i) :=
            ⟨e, List.getElem?_eq_some_iff.mpr ⟨by omega, hget⟩, hbefore⟩
          exact absurd (overlooked_of_outdatedAt hclears (Nat.le_add_right _ _) hold) (hnone _)
    · exact Or.inl (length_tidied_le_floor_iff.mpr hclears)

/-!
## Another cleanup at the same time
-/

theorem removable_tidied_of_not_clearsFloor (hclears : ¬ ClearsFloor c entries cutoff) :
    removable c (tidied c entries cutoff) cutoff = 0 := by
  by_cases hreached : floor c ≤ entries.length
  · have hlength : (tidied c entries cutoff).length = floor c := by
      unfold tidied
      rw [List.length_drop, removable_of_floor_le hclears hreached]
      omega
    have hagain : ¬ ClearsFloor c (tidied c entries cutoff) cutoff := by
      unfold ClearsFloor
      omega
    rw [removable_of_floor_le hagain (Nat.le_of_eq hlength.symm), hlength, Nat.sub_self]
  · have hfew := Nat.lt_of_not_le hreached
    have hlength : (tidied c entries cutoff).length < floor c :=
      Nat.lt_of_le_of_lt (List.drop_sublist _ _).length_le hfew
    rw [removable_of_lt_floor hlength, outdated_eq_zero_iff]
    unfold tidied
    rw [removable_of_lt_floor hfew, outdatedAt_drop, Nat.add_zero]
    rintro ⟨e, he, hbefore⟩
    have hmore : outdated entries cutoff < entries.length := (List.getElem?_eq_some_iff.mp he).1
    exact not_outdatedAt_of_freshAt (freshAt_outdated hmore) ⟨e, he, hbefore⟩

theorem removable_tidied_eq_zero_iff :
    removable c (tidied c entries cutoff) cutoff = 0 <->
      ¬ Overlooked c cutoff entries (surplus c entries.length) := by
  by_cases hclears : ClearsFloor c entries cutoff
  · have htidied : tidied c entries cutoff = entries.drop (wanted c entries cutoff) := by
      unfold tidied
      rw [removable_of_clearsFloor hclears]
    have hbounded : (tidied c entries cutoff).length ≤ c.maxEntries.toNat :=
      length_drop_removable_le c entries cutoff
    have hroomy : floor c < (tidied c entries cutoff).length := by
      rw [htidied, List.length_drop]
      unfold ClearsFloor at hclears
      omega
    have hfront : removable c (tidied c entries cutoff) cutoff = 0 <->
        outdated (tidied c entries cutoff) cutoff = 0 := by
      unfold removable
      simp only
      rw [if_pos (Nat.le_of_lt hroomy), surplus_eq_zero hbounded]
      omega
    rw [hfront, outdated_eq_zero_iff, htidied, outdatedAt_drop, Nat.add_zero]
    apply not_congr
    constructor
    · intro hold
      have hover := overlooked_of_outdatedAt hclears (Nat.le_refl _) hold
      rcases hover.sheltered with ⟨j, hj, hfresh⟩
      have hle := outdated_le_of_freshAt hfresh
      -- The entry at the front is outdated, so it was the surplus that went before it.
      have heq : wanted c entries cutoff = surplus c entries.length := by
        unfold wanted at hj ⊢
        omega
      rw [heq] at hover
      exact hover
    · intro hover
      have hle := hover.wanted_le
      have heq : wanted c entries cutoff = surplus c entries.length := by
        unfold wanted at hle ⊢
        omega
      rw [heq]
      exact hover.old
  · refine iff_of_true (removable_tidied_of_not_clearsFloor hclears) ?_
    intro hover
    exact hclears hover.unfloored

/-- After two cleanups at the same time there is nothing left to do. -/
theorem removable_tidied_tidied (c : HistoryConfig) (entries : List HistoryEntry)
    (cutoff : Timestamp) :
    removable c (tidied c (tidied c entries cutoff) cutoff) cutoff = 0 := by
  rw [removable_tidied_eq_zero_iff]
  intro hover
  have hbounded : (tidied c entries cutoff).length ≤ c.maxEntries.toNat :=
    length_drop_removable_le c entries cutoff
  rcases hover.sheltered with ⟨j, hj, _⟩
  rw [surplus_eq_zero hbounded] at hj
  exact Nat.not_lt_zero j hj

/-!
## Clocks that never step back
-/

def InTimeOrder (entries : List HistoryEntry) : Prop :=
  entries.Pairwise fun a b => b.timestamp.before a.timestamp = false

theorem not_overlooked_of_inTimeOrder (horder : InTimeOrder entries) (i : Nat) :
    ¬ Overlooked c cutoff entries i := by
  intro hover
  rcases hover.old with ⟨b, hb, hbefore⟩
  rcases hover.sheltered with ⟨j, hj, a, ha, hnot⟩
  rcases List.getElem?_eq_some_iff.mp hb with ⟨hi, rfl⟩
  rcases List.getElem?_eq_some_iff.mp ha with ⟨hj', rfl⟩
  have hpair := List.pairwise_iff_getElem.mp horder j i hj' hi hj
  rw [Timestamp.before_of_before_of_not_before hbefore hnot] at hpair
  cases hpair

/-!
## Cleanups of any history
-/

/-- A cleanup does what it is to do, and a second one at the same time changes nothing. -/
def Settles (h : HealthHistory) (now cutoff : Timestamp) : Prop :=
  exists h' n, h.cleanup? now = some (h', n) ∧ Retained h.config cutoff h'.entries ∧
    h'.cleanup? now = some (h', 0)

structure Retention (c : HistoryConfig) (log : Log) (h : HealthHistory) (now cutoff : Timestamp) :
    Prop where
  settles_iff : Settles h now cutoff <-> forall i, ¬ Overlooked c cutoff h.entries i
  /-- Too much is left exactly if an outdated entry is overlooked. -/
  retained_iff : forall h' n, h.cleanup? now = some (h', n) ->
    (Retained c cutoff h'.entries <-> forall i, ¬ Overlooked c cutoff h.entries i)
  /-- A second cleanup drops something exactly if the one that comes to the front behind the surplus
  is overlooked. -/
  repeated_iff : forall h' n h'' m, h.cleanup? now = some (h', n) ->
    h'.cleanup? now = some (h'', m) ->
      (m = 0 <-> ¬ Overlooked c cutoff h.entries (surplus c h.entries.length))
  /-- The second cleanup leaves nothing to do for a third one. -/
  thirdTime : exists h₁ n₁ h₂ n₂, h.cleanup? now = some (h₁, n₁) ∧
    h₁.cleanup? now = some (h₂, n₂) ∧ h₂.cleanup? now = some (h₂, 0)
  /-- All is well if no entry was added with an earlier timestamp than one before it. -/
  steady : InTimeOrder (allAdded log) -> Settles h now cutoff

theorem cleanup?_of_removable_eq_zero (hcutoff : cutoff? h.config now = some cutoff)
    (hnone : removable h.config h.entries cutoff = 0) : h.cleanup? now = some (h, 0) := by
  rw [cleanup?_eq hcutoff, hnone, List.drop_zero]

theorem cleanup?_eq_tidied (hcutoff : cutoff? h.config now = some cutoff) :
    h.cleanup? now = some ({ h with entries := tidied h.config h.entries cutoff },
      removable h.config h.entries cutoff) :=
  cleanup?_eq hcutoff

theorem settles_iff_not_overlooked (hcutoff : cutoff? h.config now = some cutoff) :
    Settles h now cutoff <-> forall i, ¬ Overlooked h.config cutoff h.entries i := by
  constructor
  · rintro ⟨h', n, hcleanup, hretained, _⟩
    rw [cleanup?_eq_tidied hcutoff] at hcleanup
    cases hcleanup
    exact retained_tidied_iff.mp hretained
  · intro hnone
    have hagain : removable h.config (tidied h.config h.entries cutoff) cutoff = 0 :=
      removable_tidied_eq_zero_iff.mpr (hnone _)
    exact ⟨_, _, cleanup?_eq_tidied hcutoff, retained_tidied_iff.mpr hnone,
      cleanup?_of_removable_eq_zero hcutoff hagain⟩

theorem Run.retention (hrun : Run (ofConfig c) log h) (hcutoff : cutoff? c now = some cutoff) :
    Retention c log h now cutoff := by
  have hconfig : h.config = c := hrun.config_eq
  subst hconfig
  have hfirst := cleanup?_eq_tidied hcutoff
  have hsecondTime := cleanup?_eq_tidied
    (h := { h with entries := tidied h.config h.entries cutoff }) hcutoff
  constructor
  · exact settles_iff_not_overlooked hcutoff
  · intro h' n hcleanup
    rw [hfirst] at hcleanup
    cases hcleanup
    exact retained_tidied_iff
  · intro h' n h'' m hcleanup hsecond
    rw [hfirst] at hcleanup
    cases hcleanup
    rw [hsecondTime] at hsecond
    cases hsecond
    exact removable_tidied_eq_zero_iff
  · exact ⟨_, _, _, _, hfirst, hsecondTime,
      cleanup?_of_removable_eq_zero hcutoff (removable_tidied_tidied _ _ _)⟩
  · intro horder
    rw [settles_iff_not_overlooked hcutoff]
    intro i
    apply not_overlooked_of_inTimeOrder
    have hentries : h.entries = (allAdded log).drop (allDropped log) := hrun.entries_eq.1
    rw [hentries]
    exact horder.drop

/-!
## A clock that was set back
-/

def tenEntries : HistoryConfig := ⟨10, 7, 1⟩

def onDay (day : Int) : HistoryEntry := quietAt (day * 86400)

/-- Eleven entries, of which the third one was made while the clock was set back. -/
def setBack : List HistoryEntry :=
  [onDay 100, onDay 100, onDay 1, onDay 100, onDay 100, onDay 100, onDay 100, onDay 100, onDay 100,
    onDay 100, onDay 100]

def dayHundred : Timestamp := ⟨100 * 86400, 0⟩

def weekBefore : Timestamp := ⟨93 * 86400, 0⟩

theorem overlooked_setBack : Overlooked tenEntries weekBefore setBack 2 where
  old := ⟨onDay 1, rfl, by decide⟩
  sheltered := ⟨1, by decide, onDay 100, rfl, by decide⟩
  spared := by decide
  unfloored := by
    unfold ClearsFloor
    decide

theorem run_setBack : exists log h, Run (ofConfig tenEntries) log h ∧
    log.map (fun e => e.2) = setBack.map HistoryAction.push ∧ h.entries = setBack := by
  have hany : (Trace.compute step (ofConfig tenEntries) (setBack.map HistoryAction.push)).any
      (fun h => h.entries = setBack) = true := by
    decide +kernel
  rcases Trace.exists_of_any hany with ⟨log, h, hrun, hactions, hentries⟩
  exact ⟨log, h, hrun, hactions, of_decide_eq_true hentries⟩

theorem cutoff_dayHundred : cutoff? tenEntries dayHundred = some weekBefore := by
  decide

theorem retention_when_set_back : exists log h, Run (ofConfig tenEntries) log h ∧
    h.entries = setBack ∧ cutoff? tenEntries dayHundred = some weekBefore ∧
      Overlooked tenEntries weekBefore h.entries 2 ∧
        Retention tenEntries log h dayHundred weekBefore := by
  rcases run_setBack with ⟨log, h, hrun, _, hentries⟩
  refine ⟨log, h, hrun, hentries, cutoff_dayHundred, ?_, Run.retention hrun cutoff_dayHundred⟩
  rw [hentries]
  exact overlooked_setBack

/-- The first cleanup drops the two entries that are too many and leaves the old one behind them,
which is at the front now.  The second cleanup drops it. -/
theorem old_entry_is_overlooked : exists log h, Run (ofConfig tenEntries) log h ∧
    log.map (fun e => e.2) = setBack.map HistoryAction.push ∧
      cutoff? tenEntries dayHundred = some weekBefore ∧
        ¬ Settles h dayHundred weekBefore ∧
          exists h' h'', h.cleanup? dayHundred = some (h', 2) ∧
            ¬ Retained tenEntries weekBefore h'.entries ∧
              h'.cleanup? dayHundred = some (h'', 1) := by
  rcases run_setBack with ⟨log, h, hrun, hactions, hentries⟩
  have hconfig : h.config = tenEntries := hrun.config_eq
  have hcutoff : cutoff? h.config dayHundred = some weekBefore := by
    rw [hconfig]
    exact cutoff_dayHundred
  have hremovable : removable tenEntries setBack weekBefore = 2 := by
    decide
  have hagain : removable tenEntries (setBack.drop 2) weekBefore = 1 := by
    decide
  have hfirst := cleanup?_eq hcutoff
  rw [hconfig, hentries, hremovable] at hfirst
  have hsecond := cleanup?_eq
    (h := { config := tenEntries, entries := setBack.drop 2, lastStatuses := h.lastStatuses })
    cutoff_dayHundred
  rw [hagain] at hsecond
  refine ⟨log, h, hrun, hactions, cutoff_dayHundred, ?_, _, _, hfirst, ?_, hsecond⟩
  · rw [settles_iff_not_overlooked hcutoff, hconfig, hentries]
    intro hnone
    exact hnone 2 overlooked_setBack
  · have hleft : Retained tenEntries weekBefore (tidied tenEntries setBack weekBefore) <->
        forall i, ¬ Overlooked tenEntries weekBefore setBack i := retained_tidied_iff
    unfold tidied at hleft
    rw [hremovable] at hleft
    rw [hleft]
    intro hnone
    exact hnone 2 overlooked_setBack

end HealthHistory
end PoolHealth
