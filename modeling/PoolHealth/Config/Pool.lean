import PoolHealth.Backend
import PoolHealth.Env
import PoolHealth.Json.Reading
import PoolHealth.Text.Blank

/-!
# Pool configurations

The settings of one connection pool, the rules that they have to keep, the variables
that override them, and their JSON form.
-/

namespace PoolHealth

structure PoolConfig where
  /-- The name of the pool among its manager's pools. -/
  name : String
  /-- Connections opened at the start and kept open. -/
  minSize : UInt64
  /-- The most connections that may be open. -/
  maxSize : UInt64
  /-- How long a caller waits for a slot, and a creation for the backend. -/
  connectionTimeout : Duration
  /-- Idle connections unused for this long are closed. -/
  idleTimeout : Duration
  maxLifetime : Duration
  /-- The time between two rounds of maintenance. -/
  healthCheckInterval : Duration
  /-- How long a validation or a closure may take. -/
  validationTimeout : Duration
  /-- How often opening a connection is attempted. -/
  retryAttempts : UInt32
  /-- The pause after the first failed attempt. -/
  retryDelay : Duration
deriving DecidableEq

namespace PoolConfig

/-- The configuration of a pool for which nothing but the name is given. -/
def named (name : String) : PoolConfig where
  name := name
  minSize := 5
  maxSize := 20
  connectionTimeout := .ofSecs 30
  idleTimeout := .ofSecs 300
  maxLifetime := .ofSecs 1800
  healthCheckInterval := .ofSecs 60
  validationTimeout := .ofSecs 5
  retryAttempts := 3
  retryDelay := .ofSecs 1

/-- The durations that must not be zero, in the order in which they are checked. -/
def timeouts (c : PoolConfig) : List (String × Duration) :=
  [("connection_timeout", c.connectionTimeout), ("idle_timeout", c.idleTimeout),
    ("max_lifetime", c.maxLifetime), ("health_check_interval", c.healthCheckInterval),
    ("validation_timeout", c.validationTimeout)]

/-- The first rule that the configuration breaks. -/
def fault? (c : PoolConfig) : Option ConfigError :=
  let broken (rule : String) : Option ConfigError :=
    some (.invalid ("pool '" ++ c.name ++ "': " ++ rule))
  if Text.isBlankText c.name then some (.invalid "pool name cannot be empty")
  else if c.maxSize = 0 then broken "max_size must be greater than 0"
  else if c.maxSize < c.minSize then
    broken ("min_size (" ++ toString c.minSize.toNat ++ ") cannot exceed max_size ("
      ++ toString c.maxSize.toNat ++ ")")
  else if c.retryAttempts = 0 then broken "retry_attempts must be at least 1"
  else
    match c.timeouts.find? fun t => t.2.isZero with
    | some (field, _) => broken (field ++ " must be greater than 0")
    | none => none

/-- The configuration itself if it keeps all rules. -/
def validate (c : PoolConfig) : Except ConfigError PoolConfig :=
  match c.fault? with
  | some e => .error e
  | none => .ok c

/-- The pause after the failed attempt number `attempt`, counted from one: it doubles
with each failure, at most sixteen times. -/
def retryBackoff (c : PoolConfig) (attempt : UInt32) : Duration :=
  c.retryDelay.scale (Nat.pow 2 (min (attempt.toNat - 1) 16))

/-- The settings in diagnostics. -/
def describe (c : PoolConfig) : String :=
  let fields : List (String × String) :=
    [("name", Text.quote c.name), ("min_size", toString c.minSize.toNat),
      ("max_size", toString c.maxSize.toNat),
      ("connection_timeout", c.connectionTimeout.compact),
      ("idle_timeout", c.idleTimeout.compact), ("max_lifetime", c.maxLifetime.compact),
      ("health_check_interval", c.healthCheckInterval.compact),
      ("validation_timeout", c.validationTimeout.compact),
      ("retry_attempts", toString c.retryAttempts.toNat), ("retry_delay", c.retryDelay.compact)]
  "PoolConfig \x7b " ++ ", ".intercalate (fields.map fun f => f.1 ++ ": " ++ f.2) ++ " \x7d"

/-!
## Overrides from the environment
-/

def envBase : String := "RESERVOIR_POOL"

/-- The settings that variables override, in the order in which they are read. -/
def overrides : List (Env.Override PoolConfig) :=
  [.ofSize "MIN_SIZE" fun v c => { c with minSize := v },
    .ofSize "MAX_SIZE" fun v c => { c with maxSize := v },
    .ofWord64 "CONNECTION_TIMEOUT_SECS" fun v c => { c with connectionTimeout := .ofSecs v },
    .ofWord64 "IDLE_TIMEOUT_SECS" fun v c => { c with idleTimeout := .ofSecs v },
    .ofWord64 "MAX_LIFETIME_SECS" fun v c => { c with maxLifetime := .ofSecs v },
    .ofWord64 "HEALTH_CHECK_INTERVAL_SECS" fun v c => { c with healthCheckInterval := .ofSecs v },
    .ofWord64 "VALIDATION_TIMEOUT_MS" fun v c => { c with validationTimeout := .ofMillis v },
    .ofWord32 "RETRY_ATTEMPTS" fun v c => { c with retryAttempts := v },
    .ofWord64 "RETRY_DELAY_MS" fun v c => { c with retryDelay := .ofMillis v }]

def envKey (name field : String) : String := Env.scopedKey envBase name field

/-- The defaults for a pool with the overrides that the environment has for it. -/
def ofEnv (env : Env) (name : String) : Except ConfigError PoolConfig :=
  env.applyAll (envKey name) (named name) overrides

/-- The configuration from the environment, checked. -/
def validatedOfEnv (env : Env) (name : String) : Except ConfigError PoolConfig := do
  let c ← ofEnv env name
  c.validate

/-!
## JSON form
-/

def fieldNames : List String :=
  ["name", "min_size", "max_size", "connection_timeout", "idle_timeout", "max_lifetime",
    "health_check_interval", "validation_timeout", "retry_attempts", "retry_delay"]

def toJson (c : PoolConfig) : Json :=
  .object
    [("name", .text c.name), ("min_size", .nat c.minSize.toNat),
      ("max_size", .nat c.maxSize.toNat),
      ("connection_timeout", .ofDuration c.connectionTimeout),
      ("idle_timeout", .ofDuration c.idleTimeout),
      ("max_lifetime", .ofDuration c.maxLifetime),
      ("health_check_interval", .ofDuration c.healthCheckInterval),
      ("validation_timeout", .ofDuration c.validationTimeout),
      ("retry_attempts", .nat c.retryAttempts.toNat),
      ("retry_delay", .ofDuration c.retryDelay)]

open Json.Document in
def ofDocument? (d : Json.Document) : Option PoolConfig :=
  match d.slots? false fieldNames with
  | some [name, minSize, maxSize, connectionTimeout, idleTimeout, maxLifetime,
      healthCheckInterval, validationTimeout, retryAttempts, retryDelay] => do
      return {
        name := ← required? string? name
        minSize := ← required? word64? minSize
        maxSize := ← required? word64? maxSize
        connectionTimeout := ← required? duration? connectionTimeout
        idleTimeout := ← required? duration? idleTimeout
        maxLifetime := ← required? duration? maxLifetime
        healthCheckInterval := ← required? duration? healthCheckInterval
        validationTimeout := ← required? duration? validationTimeout
        retryAttempts := ← required? word32? retryAttempts
        retryDelay := ← required? duration? retryDelay }
  | _ => none

end PoolConfig
end PoolHealth
