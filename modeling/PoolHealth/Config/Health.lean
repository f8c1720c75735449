import PoolHealth.Decimal.Layout
import PoolHealth.Env
import PoolHealth.Json.Reading
import PoolHealth.Text.Quoted
import PoolHealth.Time.Wording

/-!
# Health configurations

The settings of the health service: intervals, thresholds, how much history is kept.
With them come the rules that they have to keep, the variables that override them,
and their JSON form.
-/

namespace PoolHealth

/-- Cut-offs for a percentage; a reading strictly above a cut-off crosses it. -/
structure Thresholds where
  degradedPercent : Float
  unhealthyPercent : Float

namespace Thresholds

/-- The cut-offs used unless others are given. -/
def standard : Thresholds := ⟨85.0, 95.0⟩

/-- Whether a number is a percentage, which excludes numbers that compare with none. -/
def isPercent (x : Float) : Bool := decide (0.0 ≤ x) && decide (x ≤ 100.0)

/-- The first rule that the cut-offs break. -/
def fault? (what : String) (t : Thresholds) : Option ConfigError :=
  if !isPercent t.degradedPercent || !isPercent t.unhealthyPercent then
    some (.invalid (what ++ " thresholds must be between 0 and 100"))
  else if t.degradedPercent > t.unhealthyPercent then
    some (.invalid (what ++ " degraded threshold ("
      ++ Decimal.Layout.plain.text t.degradedPercent
      ++ ") cannot exceed unhealthy threshold ("
      ++ Decimal.Layout.plain.text t.unhealthyPercent ++ ")"))
  else none

def toJson (t : Thresholds) : Json :=
  .object [("degraded_percent", .real t.degradedPercent),
    ("unhealthy_percent", .real t.unhealthyPercent)]

open Json.Document in
def ofDocument? (d : Json.Document) : Option Thresholds :=
  match d.slots? false ["degraded_percent", "unhealthy_percent"] with
  | some [degraded, unhealthy] => do
      return ⟨← required? float? degraded, ← required? float? unhealthy⟩
  | _ => none

end Thresholds

structure HistoryConfig where
  /-- The most entries that a cleanup leaves. -/
  maxEntries : UInt64
  /-- Days after which an entry is dropped. -/
  retentionDays : UInt32
  /-- Entries dropped in addition whenever there are too many. -/
  cleanupBatchSize : UInt64
deriving DecidableEq

namespace HistoryConfig

def standard : HistoryConfig := ⟨100, 7, 20⟩

/-- The first rule that the settings break. -/
def fault? (c : HistoryConfig) : Option ConfigError :=
  if c.maxEntries = 0 then some (.invalid "history max_entries must be greater than 0")
  else if c.cleanupBatchSize = 0 then
    some (.invalid "history cleanup_batch_size must be greater than 0")
  else if c.retentionDays = 0 then
    some (.invalid "history retention_days must be greater than 0")
  else none

def toJson (c : HistoryConfig) : Json :=
  .object [("max_entries", .nat c.maxEntries.toNat),
    ("retention_days", .nat c.retentionDays.toNat),
    ("cleanup_batch_size", .nat c.cleanupBatchSize.toNat)]

open Json.Document in
def ofDocument? (d : Json.Document) : Option HistoryConfig :=
  match d.slots? false ["max_entries", "retention_days", "cleanup_batch_size"] with
  | some [maxEntries, retentionDays, cleanupBatchSize] => do
      return ⟨← required? word64? maxEntries, ← required? word32? retentionDays,
        ← required? word64? cleanupBatchSize⟩
  | _ => none

end HistoryConfig

structure HealthConfig where
  checkInterval : Duration
  /-- How long one check may take. -/
  checkTimeout : Duration
  /-- The pause after a cycle that failed. -/
  errorPause : Duration
  /-- Usage of the database pool from which it is degraded. -/
  databaseThresholdPercent : Float
  /-- Share of busy connections over all pools above which they are degraded. -/
  poolCapacityPercent : Float
  disk : Thresholds
  memory : Thresholds
  cpu : Thresholds
  history : HistoryConfig
  alertsEnabled : Bool
  /-- The directory for the write probe, if not the system's own. -/
  probeDir : Option String

namespace HealthConfig

def standard : HealthConfig where
  checkInterval := .ofSecs 60
  checkTimeout := .ofSecs 10
  errorPause := .ofSecs 10
  databaseThresholdPercent := 90.0
  poolCapacityPercent := 90.0
  disk := .standard
  memory := .standard
  cpu := .standard
  history := .standard
  alertsEnabled := true
  probeDir := none

/-- The first faulty duration. -/
def durationFault? (c : HealthConfig) : Option ConfigError :=
  let durations := [("check_interval", c.checkInterval), ("check_timeout", c.checkTimeout),
    ("error_pause", c.errorPause)]
  (durations.find? fun d => d.2.isZero).map fun d =>
    .invalid (d.1 ++ " must be greater than 0")

/-- The first faulty percentage. -/
def percentFault? (c : HealthConfig) : Option ConfigError :=
  let percents := [("database_threshold_percent", c.databaseThresholdPercent),
    ("pool_capacity_percent", c.poolCapacityPercent)]
  (percents.find? fun p => !Thresholds.isPercent p.2).map fun p =>
    .invalid (p.1 ++ " must be between 0 and 100, got " ++ Decimal.Layout.plain.text p.2)

/-- The first rule that the settings break: durations come first, then percentages,
cut-offs and history. -/
def fault? (c : HealthConfig) : Option ConfigError :=
  [c.durationFault?, c.percentFault?, c.disk.fault? "disk", c.memory.fault? "memory",
    c.cpu.fault? "cpu", c.history.fault?].findSome? id

/-- The settings themselves if they keep all rules. -/
def validate (c : HealthConfig) : Except ConfigError HealthConfig :=
  match c.fault? with
  | some e => .error e
  | none => .ok c

/-!
## Overrides from the environment
-/

def envKey (field : String) : String := "RESERVOIR_HEALTH_" ++ field

/-- The settings that variables override, in the order in which they are read. -/
def overrides : List (Env.Override HealthConfig) :=
  [.ofWord64 "CHECK_INTERVAL_SECS" fun v c => { c with checkInterval := .ofSecs v },
    .ofWord64 "CHECK_TIMEOUT_SECS" fun v c => { c with checkTimeout := .ofSecs v },
    .ofWord64 "ERROR_PAUSE_SECS" fun v c => { c with errorPause := .ofSecs v },
    .ofFloat "DATABASE_THRESHOLD_PERCENT" fun v c => { c with databaseThresholdPercent := v },
    .ofFloat "POOL_CAPACITY_PERCENT" fun v c => { c with poolCapacityPercent := v },
    .ofFloat "DISK_DEGRADED_PERCENT" fun v c => { c with disk.degradedPercent := v },
    .ofFloat "DISK_UNHEALTHY_PERCENT" fun v c => { c with disk.unhealthyPercent := v },
    .ofFloat "MEMORY_DEGRADED_PERCENT" fun v c => { c with memory.degradedPercent := v },
    .ofFloat "MEMORY_UNHEALTHY_PERCENT" fun v c => { c with memory.unhealthyPercent := v },
    .ofFloat "CPU_DEGRADED_PERCENT" fun v c => { c with cpu.degradedPercent := v },
    .ofFloat "CPU_UNHEALTHY_PERCENT" fun v c => { c with cpu.unhealthyPercent := v },
    .ofSize "HISTORY_MAX_ENTRIES" fun v c => { c with history.maxEntries := v },
    .ofWord32 "HISTORY_RETENTION_DAYS" fun v c => { c with history.retentionDays := v },
    .ofSize "HISTORY_CLEANUP_BATCH_SIZE" fun v c => { c with history.cleanupBatchSize := v },
    .ofBool "ALERTS_ENABLED" fun v c => { c with alertsEnabled := v },
    .ofText "PROBE_DIR" fun v c => { c with probeDir := some v }]

def ofEnv (env : Env) : Except ConfigError HealthConfig :=
  env.applyAll envKey standard overrides

/-- The settings from the environment, checked. -/
def validatedOfEnv (env : Env) : Except ConfigError HealthConfig := do
  let c ← ofEnv env
  c.validate

def describe (c : HealthConfig) : String :=
  let number (x : Float) : String := Decimal.Layout.diagnostic.text x
  let record (type : String) (fields : List (String × String)) : String :=
    type ++ " \x7b " ++ ", ".intercalate (fields.map fun f => f.1 ++ ": " ++ f.2) ++ " \x7d"
  let thresholds (t : Thresholds) : String :=
    record "Thresholds"
      [("degraded_percent", number t.degradedPercent),
        ("unhealthy_percent", number t.unhealthyPercent)]
  record "HealthCheckConfig"
    [("check_interval", c.checkInterval.compact), ("check_timeout", c.checkTimeout.compact),
      ("error_pause", c.errorPause.compact),
      ("database_threshold_percent", number c.databaseThresholdPercent),
      ("pool_capacity_percent", number c.poolCapacityPercent), ("disk", thresholds c.disk),
      ("memory", thresholds c.memory), ("cpu", thresholds c.cpu),
      ("history", record "HistoryConfig"
        [("max_entries", toString c.history.maxEntries.toNat),
          ("retention_days", toString c.history.retentionDays.toNat),
          ("cleanup_batch_size", toString c.history.cleanupBatchSize.toNat)]),
      ("alerts_enabled", toString c.alertsEnabled),
      ("probe_dir",
        match c.probeDir with
        | none => "None"
        | some dir => "Some(" ++ Text.quote dir ++ ")")]

/-!
## JSON form
-/

def fieldNames : List String :=
  ["check_interval", "check_timeout", "error_pause", "database_threshold_percent",
    "pool_capacity_percent", "disk", "memory", "cpu", "history", "alerts_enabled", "probe_dir"]

def toJson (c : HealthConfig) : Json :=
  .object
    [("check_interval", .ofDuration c.checkInterval),
      ("check_timeout", .ofDuration c.checkTimeout),
      ("error_pause", .ofDuration c.errorPause),
      ("database_threshold_percent", .real c.databaseThresholdPercent),
      ("pool_capacity_percent", .real c.poolCapacityPercent),
      ("disk", c.disk.toJson), ("memory", c.memory.toJson), ("cpu", c.cpu.toJson),
      ("history", c.history.toJson), ("alerts_enabled", .bool c.alertsEnabled),
      ("probe_dir", .ofOption .text c.probeDir)]

open Json.Document in
def ofDocument? (d : Json.Document) : Option HealthConfig :=
  match d.slots? false fieldNames with
  | some [checkInterval, checkTimeout, errorPause, databaseThreshold, poolCapacity, disk, memory,
      cpu, history, alertsEnabled, probeDir] => do
      return {
        checkInterval := ← required? duration? checkInterval
        checkTimeout := ← required? duration? checkTimeout
        errorPause := ← required? duration? errorPause
        databaseThresholdPercent := ← required? float? databaseThreshold
        poolCapacityPercent := ← required? float? poolCapacity
        disk := ← required? Thresholds.ofDocument? disk
        memory := ← required? Thresholds.ofDocument? memory
        cpu := ← required? Thresholds.ofDocument? cpu
        history := ← required? HistoryConfig.ofDocument? history
        alertsEnabled := ← required? bool? alertsEnabled
        probeDir := ← absentOr? string? probeDir }
  | _ => none

end HealthConfig
end PoolHealth
