import PoolHealth.Health.Component
import PoolHealth.Health.Error

/-!
# Checks of the host

What the readings of disk, memory and processor say about their components.  The
readings are given: percentages, and the outcome of writing and removing a small file
in the probed directory.  Nothing can be said about the memory of a host that seems to
have none.
-/

namespace PoolHealth
namespace Host

inductive ProbeTarget where
  | directory
  | missing
  | regularFile
deriving DecidableEq, Repr

/-- Why a file cannot be written below the target, if it cannot. -/
def ProbeTarget.obstacle? : ProbeTarget -> Option String
  | directory => none
  | missing => some "No such file or directory (os error 2)"
  | regularFile => some "Not a directory (os error 20)"

/-- A percentage as a finding, with two decimal places. -/
def percentFinding (percent : Float) : Json :=
  ComponentHealth.finiteOrNull (ComponentHealth.roundPercent percent)

/-- Status and message of the disk, whose usage may be unavailable. -/
def classifyDisk (usage : Option Float) (t : Thresholds) : HealthStatus × String :=
  match usage with
  | none => (.healthy, "disk usage unavailable for probe directory")
  | some percent =>
      let used := Decimal.fixedOne percent ++ "% used"
      match ComponentHealth.classifyPercentage percent t with
      | .unhealthy => (.unhealthy, "disk space critically low: " ++ used)
      | .degraded => (.degraded, "disk space getting low: " ++ used)
      | status => (status, "disk space ok: " ++ used)

/-- The file system: its usage, and whether the probed directory can be written to.  A
failed write degrades a file system that is healthy otherwise. -/
def fileSystem (t : Thresholds) (probeDir : String) (usage : Option (Float × Float))
    (target : ProbeTarget) : ComponentHealth :=
  let (status, message) := classifyDisk (usage.map (·.1)) t
  let disk : List (String × Json) :=
    match usage with
    | none => []
    | some (percent, freeGiB) =>
        [("disk_usage_percent", percentFinding percent),
          ("disk_free_gb", ComponentHealth.finiteOrNull freeGiB)]
  let (status, message, writeTest) : HealthStatus × String × String :=
    match target.obstacle? with
    | none => (status, message, "passed")
    | some reason =>
        (if status = .healthy then .degraded else status,
          message ++ ", write test failed: " ++ reason, "failed: " ++ reason)
  let c : ComponentHealth :=
    { name := "file_system", type := .fileSystem, status := status, message := message }
  (disk ++ [("write_test", Json.text writeTest)]).foldl
    (fun c (key, value) => c.withMetadata key value)
    (c.withMetadata "probe_dir" (.text probeDir))

def usageWord : HealthStatus -> String
  | .unhealthy => "critically high"
  | .degraded => "high"
  | _ => "normal"

/-- Memory with its usage in percent and its sizes in GiB. -/
def memory (t : Thresholds) (percent available total : Float) : ComponentHealth :=
  let status := ComponentHealth.classifyPercentage percent t
  let c : ComponentHealth :=
    { name := "memory", type := .memory, status := status
      message := "memory usage " ++ usageWord status ++ ": " ++ Decimal.fixedOne percent ++ "%" }
  ((c.withMetadata "memory_usage_percent" (percentFinding percent)).withMetadata
    "memory_available_gb" (ComponentHealth.finiteOrNull available)).withMetadata
    "memory_total_gb" (ComponentHealth.finiteOrNull total)

def checkMemory (t : Thresholds) (percent available total : Float) :
    Except CheckError ComponentHealth :=
  if total == 0.0 then .error (.failed "memory" "total memory reported as 0")
  else .ok (memory t percent available total)

/-- The processor with its usage in percent and its number of cores. -/
def cpu (t : Thresholds) (percent : Float) (cores : Nat) : ComponentHealth :=
  let status := ComponentHealth.classifyPercentage percent t
  let c : ComponentHealth :=
    { name := "cpu", type := .cpu, status := status
      message := "cpu usage " ++ usageWord status ++ ": " ++ Decimal.fixedOne percent ++ "%" }
  (c.withMetadata "cpu_usage_percent" (percentFinding percent)).withMetadata "cpu_count"
    (.nat cores)

structure Readings where
  /-- The system's own directory for files that do not last. -/
  tempDir : String
  /-- The usage of the disk in percent and its free room in GiB. -/
  disk : Option (Float × Float)
  target : ProbeTarget
  memoryPercent : Float
  memoryAvailableGiB : Float
  memoryTotalGiB : Float
  cpuPercent : Float
  cores : Nat

end Host
end PoolHealth
