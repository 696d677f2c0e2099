/-!
# Severity

How loudly something is reported.
-/

namespace SteadyTask

/-- How loudly something is reported. -/
inductive Severity where
  | info
  | warn
  deriving Repr, DecidableEq

/-- The level in reports. -/
def Severity.name : Severity → String
  | .info => "INFO"
  | .warn => "WARN"

end SteadyTask
