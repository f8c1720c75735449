import PoolHealth.Manager.Error

/-!
# Errors of health checks and of the health service
-/

namespace PoolHealth

/-- Why a check gave no answer. -/
inductive CheckError where
  | timeout (component : String) (limit : Duration)
  | failed (component message : String)
  | panicked (component : String)
  | unknownComponent (component : String)
deriving DecidableEq

namespace CheckError

def message : CheckError -> String
  | timeout component limit => component ++ " check timed out after " ++ limit.phrase
  | failed component message => component ++ " check failed: " ++ message
  | panicked component => component ++ " check panicked"
  | unknownComponent component =>
      "no health check registered for component '" ++ component ++ "'"

end CheckError

/-- Why the health service could not be built. -/
inductive ServiceError where
  | config (source : ConfigError)
  | poolManager (source : ManagerError)
deriving DecidableEq

namespace ServiceError

def message : ServiceError -> String
  | config source => "invalid health check configuration: " ++ source.message
  | poolManager source => "pool manager unavailable: " ++ source.message

def cause : ServiceError -> Option String
  | config source => some source.message
  | poolManager source => some source.message

end ServiceError

/-- Why metrics or logging could not be set up. -/
inductive ObservabilityError where
  | metrics (message : String)
  | tracing (message : String)
deriving DecidableEq

namespace ObservabilityError

def message : ObservabilityError -> String
  | metrics message => "Metrics initialization failed: " ++ message
  | tracing message => "Tracing initialization failed: " ++ message

end ObservabilityError

inductive LogFormat where
  | json
  | pretty
deriving DecidableEq, Repr

namespace LogFormat

def name : LogFormat -> String
  | json => "json"
  | pretty => "pretty"

def named : List (String × LogFormat) := [json, pretty].map fun f => (f.name, f)

end LogFormat

structure ObservabilityConfig where
  /-- The filter used unless another one is given. -/
  defaultFilter : String := "info"
  logFormat : LogFormat := .json
deriving DecidableEq

end PoolHealth
