import PoolHealth.Health.CycleResult

/-!
# Health history

A history keeps, for each cycle, the overall status and the components whose status
changed.  It grows with every cycle; a cleanup drops entries that are too many or too
old, but never below a floor.
-/

namespace PoolHealth

structure HistoryEntry where
  timestamp : Timestamp
  overall : HealthStatus
  /-- Components whose status differs from the one before. -/
  changes : List (String × HealthStatus)
deriving DecidableEq

namespace HistoryEntry

/-- The entries of `now` that `previous` lacks or has with another value. -/
def changesSince (previous now : List (String × HealthStatus)) : List (String × HealthStatus) :=
  now.filter fun (name, status) => previous.lookup name != some status

/-- The entry of a cycle after a cycle with the statuses `previous`, if there was one. -/
def ofResult (r : CycleResult) (previous : Option (List (String × HealthStatus))) :
    HistoryEntry where
  timestamp := r.timestamp
  overall := r.overall
  changes := changesSince (previous.getD []) r.statuses

def toJson (e : HistoryEntry) : Json :=
  .object [("timestamp", .text e.timestamp.render), ("overall_status", .text e.overall.name),
    ("component_changes", .object (e.changes.map fun (name, s) => (name, .text s.name)))]

open Json.Document in
def ofDocument? (d : Json.Document) : Option HistoryEntry :=
  match d.slots? false ["timestamp", "overall_status", "component_changes"] with
  | some [timestamp, overall, changes] => do
      return ⟨← required? PoolStats.timestamp? timestamp,
        ← required? (oneOf? HealthStatus.named) overall,
        ← required? (entries? (oneOf? HealthStatus.named)) changes⟩
  | _ => none

end HistoryEntry

/-- The history of a service, oldest entry first. -/
structure HealthHistory where
  config : HistoryConfig
  entries : List HistoryEntry := []
  /-- The statuses of the last recorded cycle. -/
  lastStatuses : Option (List (String × HealthStatus)) := none

namespace HealthHistory

/-- The most entries that a cleanup keeps whatever their number and age. -/
def floorLimit : Nat := 10

/-- The number of entries that a cleanup always leaves, if there are that many. -/
def floor (c : HistoryConfig) : Nat :=
  min (min floorLimit c.cleanupBatchSize.toNat) c.maxEntries.toNat

/-- The most entries for which room can be set aside: an entry takes sixty-four bytes,
and memory has less than `2 ^ 63` of them. -/
def maxRoom : Nat := (Nat.pow 2 63 - 1) / 64

/-- Whether a history with these settings can be made at all: it sets room aside for as
many entries as it may come to hold. -/
def fits (c : HistoryConfig) : Bool := c.maxEntries.toNat + c.cleanupBatchSize.toNat ≤ maxRoom

/-- An empty history, if it can be made. -/
def fresh? (c : HistoryConfig) : Option HealthHistory :=
  if fits c then some { config := c } else none

def push (h : HealthHistory) (e : HistoryEntry) : HealthHistory :=
  { h with entries := h.entries ++ [e] }

def nextEntry (h : HealthHistory) (r : CycleResult) : HistoryEntry :=
  .ofResult r h.lastStatuses

def record (h : HealthHistory) (r : CycleResult) : HealthHistory :=
  { h.push (h.nextEntry r) with lastStatuses := some r.statuses }

def since (h : HealthHistory) (cutoff : Timestamp) : List HistoryEntry :=
  h.entries.filter fun e => !e.timestamp.before cutoff

/-- How many of `len` entries are too many. -/
def surplus (c : HistoryConfig) (len : Nat) : Nat :=
  if c.maxEntries.toNat < len then len - c.maxEntries.toNat + c.cleanupBatchSize.toNat else 0

/-- The number of entries at the front that lie before the cutoff. -/
def outdated (entries : List HistoryEntry) (cutoff : Timestamp) : Nat :=
  (entries.takeWhile fun e => e.timestamp.before cutoff).length

def removable (c : HistoryConfig) (entries : List HistoryEntry) (cutoff : Timestamp) : Nat :=
  let len := entries.length
  let wanted := min (max (surplus c len) (outdated entries cutoff)) len
  if floor c ≤ len then min wanted (len - floor c) else wanted

theorem removable_le (c : HistoryConfig) (entries : List HistoryEntry) (cutoff : Timestamp) :
    removable c entries cutoff ≤ entries.length := by
  unfold removable
  simp only
  split
  · omega
  · omega

/-- The oldest time that an entry may have, if the calendar reaches that far. -/
def cutoff? (c : HistoryConfig) (now : Timestamp) : Option Timestamp :=
  now.minusSeconds? (c.retentionDays.toNat * 86400)

/-- Drops entries that are too many or too old and tells how many; `none` if the
calendar does not reach the cutoff. -/
def cleanup? (h : HealthHistory) (now : Timestamp) : Option (HealthHistory × Nat) :=
  if h.entries.isEmpty then some (h, 0)
  else
    (cutoff? h.config now).map fun cutoff =>
      let n := removable h.config h.entries cutoff
      ({ h with entries := h.entries.drop n }, n)

/-- The entries of the last `hours` hours; `none` if the calendar does not reach that
far. -/
def lastHours? (h : HealthHistory) (now : Timestamp) (hours : UInt32) :
    Option (List HistoryEntry) :=
  (now.minusSeconds? (hours.toNat * 3600)).map h.since

end HealthHistory
end PoolHealth
