import PoolHealth.Config.Pool
import PoolHealth.Manager.Error

/-!
# Configuration of the pool manager

A list of pools in the order in which they are brought up, each with its settings and
the place of its backend.
-/

namespace PoolHealth

open Json.Document in
/-- Reads the place of a backend.  The kind may stand anywhere among the members, or
first in an array; every member has to have a value, nested at most `depth` levels. -/
def BackendSpec.ofDocument? (depth : Nat) (d : Json.Document) : Option BackendSpec :=
  if (d.value? depth).isNone then none
  else
    match d with
    | .object members =>
        match members.filter fun m => m.1 == some "type" with
        | [(_, .text (some tag))] =>
            let rest := members.filter fun m => m.1 != some "type"
            ofFields? tag (.object rest)
        | _ => none
    | .array (.text (some tag) :: rest) => ofFields? tag (.array rest)
    | _ => none
where
  /-- The place given by a kind and the fields that go with it. -/
  ofFields? (tag : String) (fields : Json.Document) : Option BackendSpec :=
    let url? (field : String) : Option String :=
      match fields.slots? false [field] with
      | some [url] => required? string? url
      | _ => none
    if tag = "database" then (url? "url").map .database
    else if tag = "cache" then (url? "url").map .cache
    else if tag = "http" then (url? "base_url").map .http
    else none

structure PoolDefinition where
  config : PoolConfig
  backend : BackendSpec
deriving DecidableEq

namespace PoolDefinition

def name (p : PoolDefinition) : String := p.config.name

def describe (p : PoolDefinition) : String :=
  "PoolDefinition \x7b config: " ++ p.config.describe ++ ", backend: " ++ p.backend.describe
    ++ " \x7d"

open Json.Document in
def ofDocument? (depth : Nat) (d : Json.Document) : Option PoolDefinition :=
  match d.slots? false ["config", "backend"] with
  | some [config, backend] => do
      return ⟨← required? PoolConfig.ofDocument? config,
        ← required? (BackendSpec.ofDocument? (depth - 1)) backend⟩
  | _ => none

end PoolDefinition

/-- The pools of a manager, in the order in which they are brought up. -/
structure ManagerConfig where
  pools : List PoolDefinition := []
deriving DecidableEq

namespace ManagerConfig

/-- The variables and names of the pools that the environment can ask for. -/
def databasePool : String := "database"

def cachePool : String := "cache"

def httpPool : String := "http"

/-- The first fault among definitions, where the names in `seen` are taken. -/
def firstFault? (seen : List String) : List PoolDefinition -> Option ManagerError
  | [] => none
  | p :: rest =>
      match p.config.fault? with
      | some e => some (.config e)
      | none =>
          if seen.contains p.name then some (.duplicatePool p.name)
          else firstFault? (p.name :: seen) rest

/-- The first definition that is faulty or repeats a name. -/
def fault? (c : ManagerConfig) : Option ManagerError := firstFault? [] c.pools

def describe (c : ManagerConfig) : String :=
  "PoolManagerConfig \x7b pools: [" ++ ", ".intercalate (c.pools.map PoolDefinition.describe)
    ++ "] \x7d"

/-- The pool for a variable with an address, if it is set. -/
def poolOfEnv (env : Env) (key pool : String) (spec : String -> BackendSpec) :
    Except ConfigError (List PoolDefinition) :=
  match env.nonBlank? key with
  | none => .ok []
  | some url => (PoolConfig.validatedOfEnv env pool).map fun c => [⟨c, spec url⟩]

def ofEnv (env : Env) : Except ConfigError ManagerConfig := do
  let database ← poolOfEnv env "RESERVOIR_DATABASE_URL" databasePool .database
  let cache ← poolOfEnv env "RESERVOIR_REDIS_URL" cachePool .cache
  let http ← poolOfEnv env "RESERVOIR_HTTP_BASE_URL" httpPool .http
  return ⟨database ++ cache ++ http⟩

open Json.Document in
def ofDocument? (depth : Nat) (d : Json.Document) : Option ManagerConfig :=
  match d.slots? false ["pools"] with
  | some [pools] => do
      return ⟨← required? (list? (PoolDefinition.ofDocument? (depth - 2))) pools⟩
  | _ => none

end ManagerConfig
end PoolHealth
