import PoolHealth.Time.Wording

/-!
# Errors of configuration, backends and pools

Each kind of failure has a constructor, and one function per type gives its wording.
`cause` is the wording of the error behind an error, if there is one.
-/

namespace PoolHealth

/-- Faults of a configuration and of the variables that it is read from. -/
inductive ConfigError where
  /-- A variable is set to something that cannot be read. -/
  | invalidVariable (key message : String)
  /-- A value breaks a rule of the configuration. -/
  | invalid (message : String)
deriving DecidableEq

namespace ConfigError

def message : ConfigError -> String
  | invalidVariable key message => "Invalid environment variable " ++ key ++ ": " ++ message
  | invalid message => "Configuration validation failed: " ++ message

end ConfigError

/-- Failures of a backend while a connection is opened, probed or closed. -/
inductive BackendError where
  | connect (message : String)
  | validate (message : String)
  | close (message : String)
  | timeout (limit : Duration)
deriving DecidableEq

namespace BackendError

def message : BackendError -> String
  | connect message => "connection failed: " ++ message
  | validate message => "validation failed: " ++ message
  | close message => "close failed: " ++ message
  | timeout limit => "backend operation timed out after " ++ limit.phrase

end BackendError

inductive PoolError where
  /-- The pool is not ready, or no longer. -/
  | notInitialized (pool : String)
  /-- No slot became free in time. -/
  | connectionTimeout (pool : String) (limit : Duration)
  /-- Every slot is taken and the caller asked not to wait. -/
  | exhausted (pool : String)
  | connectionValidation (pool message : String)
  | backend (pool : String) (source : BackendError)
  | invalidConfig (source : ConfigError)
deriving DecidableEq

namespace PoolError

def message : PoolError -> String
  | notInitialized pool => "pool '" ++ pool ++ "' not initialized or shut down"
  | connectionTimeout pool limit =>
      "timed out after " ++ limit.phrase ++ " waiting for a connection from pool '" ++ pool ++ "'"
  | exhausted pool => "pool '" ++ pool ++ "' is exhausted"
  | connectionValidation pool message =>
      "connection validation failed for pool '" ++ pool ++ "': " ++ message
  | backend pool source =>
      "backend operation failed for pool '" ++ pool ++ "': " ++ source.message
  | invalidConfig source => source.message

/-- The wording of the error behind the error; a faulty configuration speaks for
itself. -/
def cause : PoolError -> Option String
  | backend _ source => some source.message
  | _ => none

def isRetryable : PoolError -> Bool
  | connectionTimeout .. | exhausted .. | connectionValidation .. | backend .. => true
  | notInitialized .. | invalidConfig .. => false

def poolName? : PoolError -> Option String
  | notInitialized pool | exhausted pool => some pool
  | connectionTimeout pool _ | connectionValidation pool _ | backend pool _ => some pool
  | invalidConfig _ => none

end PoolError
end PoolHealth
