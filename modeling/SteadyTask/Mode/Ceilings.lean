import SteadyTask.Metric.Values
import SteadyTask.Mode.Basic

/-!
# Ceilings

Each mode has a ceiling for each of the three known measurements.  Other measurements have none.
-/

namespace SteadyTask.Mode

/-- The ceilings of one mode, in percent. -/
structure Ceilings where
  cpu : Float
  memory : Float
  accelerator : Float
  deriving Repr, Inhabited

/-- The ceiling of a measurement. -/
def Ceilings.of? (c : Ceilings) (metric : String) : Option Float :=
  if metric = Metric.cpuPercent then some c.cpu
  else if metric = Metric.memoryPercent then some c.memory
  else if metric = Metric.acceleratorPercent then some c.accelerator
  else none

/-- The ceilings of all modes. -/
structure Thresholds where
  normal : Ceilings
  alert : Ceilings
  degraded : Ceilings
  lockdown : Ceilings
  recovery : Ceilings
  deriving Repr, Inhabited

namespace Thresholds

/-- The ceilings of a mode. -/
def forMode (t : Thresholds) : Mode → Ceilings
  | .normal => t.normal
  | .alert => t.alert
  | .degraded => t.degraded
  | .lockdown => t.lockdown
  | .recovery => t.recovery

/-- The same ceilings in all modes. -/
def uniform (c : Ceilings) : Thresholds :=
  ⟨c, c, c, c, c⟩

/-- The ceilings unless configured otherwise. -/
def default : Thresholds where
  normal := ⟨85.0, 90.0, 95.0⟩
  alert := ⟨80.0, 85.0, 90.0⟩
  degraded := ⟨75.0, 80.0, 85.0⟩
  lockdown := ⟨75.0, 80.0, 85.0⟩
  recovery := ⟨70.0, 75.0, 80.0⟩

end Thresholds

end SteadyTask.Mode
