import PoolHealth.Errors

/-!
# Errors of the pool manager
-/

namespace PoolHealth

inductive ManagerError where
  /-- A pool could not be built or brought up. -/
  | poolInitialization (pool : String) (source : PoolError)
  | duplicatePool (pool : String)
  /-- The manager has been shut down for good. -/
  | alreadyClosed
  | poolNotFound (pool : String)
  /-- The pool has connections of another kind than the caller asked for. -/
  | backendMismatch (pool expected : String)
  | pool (source : PoolError)
  | config (source : ConfigError)
deriving DecidableEq

namespace ManagerError

def message : ManagerError -> String
  | poolInitialization name source =>
      "failed to initialize pool '" ++ name ++ "': " ++ source.message
  | duplicatePool name => "duplicate pool name '" ++ name ++ "'"
  | alreadyClosed => "pool manager has been shut down"
  | poolNotFound name => "pool '" ++ name ++ "' not found"
  | backendMismatch name expected => "pool '" ++ name ++ "' is not backed by " ++ expected
  | pool source => source.message
  | config source => source.message

/-- The wording of the error behind the error; errors that are passed on unchanged
have the cause that they had before. -/
def cause : ManagerError -> Option String
  | poolInitialization _ source => some source.message
  | pool source => source.cause
  | _ => none

end ManagerError
end PoolHealth
