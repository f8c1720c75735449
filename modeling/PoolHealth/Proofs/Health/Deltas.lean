import PoolHealth.Proofs.Health.HistoryBounds
import PoolHealth.Proofs.Keyed

/-!
# What the changes in a history tell

The entry of a result mentions the components whose status is not what it was in the result before.
Whoever has read all entries up to that one knows the status of every component of the result, also
of those that were away for some time.

The entries are a function of the results alone.  They depend on the statuses that were recorded
last, and a cleanup does not touch these.  That the entries can be read back is shown for this
function: what is known after an entry covers the result that the entry is about, whatever else is
remembered.
-/

namespace PoolHealth

namespace HistoryEntry

variable {e : HistoryEntry} {r : CycleResult} {previous known : List (String × HealthStatus)}
  {name : String} {status : HealthStatus}

/-!
## Reading one entry
-/

/-- What is known after an entry, if `known` was known before.  What comes later counts. -/
def mergeInto (known : List (String × HealthStatus)) (e : HistoryEntry) :
    List (String × HealthStatus) :=
  e.changes.foldl (fun known change => Keyed.set change.1 change.2 known) known

theorem lookup_foldl_set {changes : List (String × HealthStatus)}
    (hnodup : (changes.map fun change => change.1).Nodup) (known : List (String × HealthStatus))
    (name : String) :
    (changes.foldl (fun known change => Keyed.set change.1 change.2 known) known).lookup name
      = (changes.lookup name).or (known.lookup name) := by
  induction changes generalizing known with
  | nil =>
      rfl
  | cons change rest ih =>
      rcases change with ⟨k, v⟩
      rw [List.map_cons, List.nodup_cons] at hnodup
      rw [List.foldl_cons, ih hnodup.2]
      by_cases hk : k = name
      · subst hk
        rw [Keyed.lookup_set_self, List.lookup_cons_self,
          Keyed.lookup_eq_none_of_notMem hnodup.1]
        rfl
      · rw [Keyed.lookup_set_of_ne v known hk, Keyed.lookup_cons_of_ne v rest hk]

/-- An entry changes what is known of the components that it mentions, and nothing else. -/
theorem lookup_mergeInto (hnodup : (e.changes.map fun change => change.1).Nodup)
    (known : List (String × HealthStatus)) (name : String) :
    (e.mergeInto known).lookup name = (e.changes.lookup name).or (known.lookup name) :=
  lookup_foldl_set hnodup known name

theorem mem_changesSince {now : List (String × HealthStatus)} :
    (name, status) ∈ changesSince previous now <->
      (name, status) ∈ now ∧ previous.lookup name ≠ some status := by
  unfold changesSince
  rw [List.mem_filter, bne_iff_ne]

theorem nodup_changesSince {now : List (String × HealthStatus)}
    (hnodup : (now.map fun s => s.1).Nodup) :
    ((changesSince previous now).map fun change => change.1).Nodup :=
  (List.filter_sublist.map _).nodup hnodup

def Covers (known statuses : List (String × HealthStatus)) : Prop :=
  forall name status, statuses.lookup name = some status -> known.lookup name = some status

theorem covers_nil (known : List (String × HealthStatus)) : Covers known [] := by
  intro name status hlookup
  cases hlookup

theorem nodup_statuses (hnodup : (r.components.map fun c => c.1).Nodup) :
    (r.statuses.map fun s => s.1).Nodup := by
  unfold CycleResult.statuses
  rw [List.map_map]
  exact hnodup

theorem covers_mergeInto {statuses : Option (List (String × HealthStatus))}
    (hnodup : (r.components.map fun c => c.1).Nodup) (hknown : Covers known (statuses.getD [])) :
    Covers ((ofResult r statuses).mergeInto known) r.statuses := by
  intro name status hlookup
  have hkeys := nodup_statuses hnodup
  have hchanges : ((ofResult r statuses).changes.map fun change => change.1).Nodup :=
    nodup_changesSince hkeys
  have hmem : (name, status) ∈ r.statuses := Keyed.mem_of_lookup hlookup
  rw [lookup_mergeInto hchanges]
  by_cases hsame : (statuses.getD []).lookup name = some status
  · -- The entry does not mention the component, so what was known of it stays.
    have hunmentioned : (ofResult r statuses).changes.lookup name = none := by
      apply Keyed.lookup_eq_none_of_notMem
      intro hmentioned
      rcases List.mem_map.mp hmentioned with ⟨⟨name, other⟩, hchange, rfl⟩
      rcases mem_changesSince.mp hchange with ⟨hother, hdiffers⟩
      rw [Keyed.lookup_eq_some_of_mem hkeys hother] at hlookup
      cases hlookup
      exact hdiffers hsame
    rw [hunmentioned, hknown name status hsame]
    rfl
  · have hmentioned : (name, status) ∈ (ofResult r statuses).changes :=
      mem_changesSince.mpr ⟨hmem, hsame⟩
    rw [Keyed.lookup_eq_some_of_mem hchanges hmentioned]
    rfl

/-!
## Reading many entries
-/

def replay (entries : List HistoryEntry) : List (String × HealthStatus) :=
  entries.foldl (fun known e => e.mergeInto known) []

def deltas (previous : Option (List (String × HealthStatus))) :
    List CycleResult -> List HistoryEntry
  | [] => []
  | r :: rest => ofResult r previous :: deltas (some r.statuses) rest

theorem length_deltas (previous : Option (List (String × HealthStatus)))
    (results : List CycleResult) : (deltas previous results).length = results.length := by
  induction results generalizing previous with
  | nil =>
      rfl
  | cons r rest ih =>
      exact congrArg Nat.succ (ih (some r.statuses))

/-- The statuses that the entry of a result is compared with. -/
def comparedWith (previous : Option (List (String × HealthStatus))) (results : List CycleResult) :
    Nat -> Option (List (String × HealthStatus))
  | 0 => previous
  | k + 1 => results[k]?.map CycleResult.statuses

theorem getElem?_deltas (previous : Option (List (String × HealthStatus)))
    (results : List CycleResult) (k : Nat) :
    (deltas previous results)[k]?
      = results[k]?.map fun r => ofResult r (comparedWith previous results k) := by
  induction results generalizing previous k with
  | nil =>
      rfl
  | cons r rest ih =>
      cases k with
      | zero =>
          rfl
      | succ k =>
          have hcompared : comparedWith (some r.statuses) rest k
              = comparedWith previous (r :: rest) (k + 1) := by
            cases k with
            | zero | succ k =>
                rfl
          rw [← hcompared]
          exact ih (some r.statuses) k

theorem lookup_replay_deltas {results : List CycleResult}
    {previous : Option (List (String × HealthStatus))} {k : Nat}
    (hnodup : forall r, r ∈ results -> (r.components.map fun c => c.1).Nodup)
    (hknown : Covers known (previous.getD [])) (hr : results[k]? = some r) :
    Covers (((deltas previous results).take (k + 1)).foldl (fun known e => e.mergeInto known) known)
      r.statuses := by
  induction results generalizing previous known k with
  | nil =>
      cases hr
  | cons s rest ih =>
      have hcovers := covers_mergeInto (hnodup s List.mem_cons_self) hknown
      cases k with
      | zero =>
          cases hr
          exact hcovers
      | succ k =>
          apply ih
          · intro r hmem
            exact hnodup r (List.mem_cons_of_mem s hmem)
          · exact hcovers
          · exact hr

end HistoryEntry

/-!
## The entries that recording returns
-/

namespace HealthHistory

open HistoryEntry (replay deltas comparedWith)

/-- What an action makes of a history.  A cleanup that breaks down leaves it as it is. -/
def attempt (h : HealthHistory) (a : HistoryAction) : HealthHistory := (h.step a).getD h

def resultOf? : HistoryAction -> Option CycleResult
  | .record r => some r
  | .push _ | .cleanup _ => none

def resultsOf (actions : List HistoryAction) : List CycleResult := actions.filterMap resultOf?

def returned? (h : HealthHistory) (a : HistoryAction) : Option HistoryEntry :=
  (resultOf? a).bind fun _ => (h.attempt a).entries.getLast?

/-- All entries that recording returns while a history goes through some actions. -/
def returned (h : HealthHistory) : List HistoryAction -> List HistoryEntry
  | [] => []
  | a :: rest => (h.returned? a).toList ++ (h.attempt a).returned rest

variable {h : HealthHistory} {a : HistoryAction} {c : HistoryConfig}
  {actions others : List HistoryAction}

theorem returned?_record (h : HealthHistory) (r : CycleResult) :
    h.returned? (.record r) = some (h.nextEntry r) :=
  List.getLast?_concat

theorem lastStatuses_attempt (hquiet : resultOf? a = none) :
    (h.attempt a).lastStatuses = h.lastStatuses := by
  cases a with
  | record r =>
      cases hquiet
  | push e =>
      rfl
  | cleanup now =>
      unfold attempt
      cases hstep : h.step (.cleanup now) with
      | none =>
          rfl
      | some h' =>
          rw [Option.getD_some, (cleanedUp_of_step hstep).left]

theorem returned_eq_deltas (h : HealthHistory) (actions : List HistoryAction) :
    h.returned actions = deltas h.lastStatuses (resultsOf actions) := by
  induction actions generalizing h with
  | nil =>
      rfl
  | cons a rest ih =>
      unfold returned resultsOf
      cases hresult : resultOf? a with
      | none =>
          have hnothing : h.returned? a = none := by
            unfold returned?
            rw [hresult]
            rfl
          rw [hnothing, List.filterMap_cons_none hresult, ih, lastStatuses_attempt hresult]
          rfl
      | some r =>
          cases a with
          | record s =>
              cases hresult
              rw [returned?_record, List.filterMap_cons_some (f := resultOf?) rfl, ih]
              rfl
          | push e | cleanup now =>
              cases hresult

/-- Histories with the same statuses recorded last return the same entries for the same results,
whatever is pushed or cleaned up in between. -/
theorem returned_eq_of_resultsOf_eq {g : HealthHistory} (hlast : g.lastStatuses = h.lastStatuses)
    (hresults : resultsOf others = resultsOf actions) : g.returned others = h.returned actions := by
  rw [returned_eq_deltas, returned_eq_deltas, hlast, hresults]

def statusBefore? (results : List CycleResult) : Nat -> String -> Option HealthStatus
  | 0, _ => none
  | k + 1, name => results[k]?.bind fun r => r.statuses.lookup name

theorem lookup_comparedWith (results : List CycleResult) (k : Nat) (name : String) :
    ((comparedWith none results k).getD []).lookup name = statusBefore? results k name := by
  cases k with
  | zero =>
      rfl
  | succ k =>
      show ((results[k]?.map CycleResult.statuses).getD []).lookup name
        = results[k]?.bind fun r => r.statuses.lookup name
      cases results[k]? with
      | none | some r =>
          rfl

structure Faithful (c : HistoryConfig) (actions : List HistoryAction) : Prop where
  /-- There is one entry for each result. -/
  counted : ((ofConfig c).returned actions).length = (resultsOf actions).length
  /-- All entries up to the one of a result together tell the status of each of its components. -/
  lossless : forall (k : Nat) (r : CycleResult) (name : String) (status : HealthStatus),
    (resultsOf actions)[k]? = some r -> (name, status) ∈ r.statuses ->
      (replay (((ofConfig c).returned actions).take (k + 1))).lookup name = some status
  /-- An entry mentions exactly the components of its result that did not have their status in the
  result before, and mentions none twice. -/
  minimal : forall (k : Nat) (r : CycleResult) (e : HistoryEntry),
    (resultsOf actions)[k]? = some r -> ((ofConfig c).returned actions)[k]? = some e ->
      e.timestamp = r.timestamp ∧ e.overall = r.overall ∧
        (e.changes.map fun change => change.1).Nodup ∧
          forall name status, (name, status) ∈ e.changes <->
            (name, status) ∈ r.statuses ∧
              statusBefore? (resultsOf actions) k name ≠ some status
  /-- Nothing but the results makes a difference. -/
  independent : forall (c' : HistoryConfig) (others : List HistoryAction),
    resultsOf others = resultsOf actions ->
      (ofConfig c').returned others = (ofConfig c).returned actions

theorem faithful_of_nodup (c : HistoryConfig) {actions : List HistoryAction}
    (hnodup : forall r, r ∈ resultsOf actions -> (r.components.map fun c => c.1).Nodup) :
    Faithful c actions := by
  have hreturned := returned_eq_deltas (ofConfig c) actions
  have hfirst : (ofConfig c).lastStatuses = none := rfl
  rw [hfirst] at hreturned
  constructor
  · rw [hreturned]
    exact HistoryEntry.length_deltas none (resultsOf actions)
  · intro k r name status hr hstatus
    have hkeys := HistoryEntry.nodup_statuses (hnodup r (List.mem_of_getElem? hr))
    rw [hreturned]
    apply HistoryEntry.lookup_replay_deltas hnodup (HistoryEntry.covers_nil []) hr
    exact Keyed.lookup_eq_some_of_mem hkeys hstatus
  · intro k r e hr he
    rw [hreturned, HistoryEntry.getElem?_deltas, hr, Option.map_some] at he
    cases he
    refine ⟨rfl, rfl, ?_, ?_⟩
    · apply HistoryEntry.nodup_changesSince
      exact HistoryEntry.nodup_statuses (hnodup r (List.mem_of_getElem? hr))
    · intro name status
      rw [← lookup_comparedWith]
      exact HistoryEntry.mem_changesSince
  · intro c' others hresults
    exact returned_eq_of_resultsOf_eq rfl hresults

def resultWith (statuses : List (String × HealthStatus)) : CycleResult :=
  .ofComponents ⟨0, 0⟩ "" false .zero
    (statuses.map fun s => ⟨s.1, .other, s.2, "", none, default, [], 0⟩)

/-- The second component is gone for one cycle, and comes back with the status that it had. -/
def goneAndBack : List HistoryAction :=
  [.record (resultWith [("cache", .healthy), ("queue", .degraded)]),
    .record (resultWith [("cache", .healthy)]), .cleanup ⟨0, 0⟩,
    .record (resultWith [("cache", .unhealthy), ("queue", .degraded)])]

theorem faithful_when_gone_and_back :
    (forall r, r ∈ resultsOf goneAndBack -> (r.components.map fun c => c.1).Nodup) ∧
      ((ofConfig threeEntries).returned goneAndBack).map (fun e => e.changes)
        = [[("cache", .healthy), ("queue", .degraded)], [],
          [("cache", .unhealthy), ("queue", .degraded)]] ∧
        Faithful threeEntries goneAndBack :=
  have hnodup : forall r, r ∈ resultsOf goneAndBack ->
      (r.components.map fun c => c.1).Nodup := by decide
  ⟨hnodup, by decide, faithful_of_nodup threeEntries hnodup⟩

end HealthHistory
end PoolHealth
