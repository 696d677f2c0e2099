/-!
# Operating modes

The system is in one of five modes.  Only some changes are possible: any mode but lockdown itself
can go into lockdown, lockdown is left for recovery alone, and recovery ends in normal operation.
-/

namespace SteadyTask

/-- How the system operates. -/
inductive Mode where
  | normal
  | alert
  | degraded
  | lockdown
  | recovery
  deriving Repr, DecidableEq, Inhabited

namespace Mode

/-- Whether the mode can change straight to another. -/
def canChange (m next : Mode) : Bool :=
  match m, next with
  | .lockdown, .lockdown => false
  | _, .lockdown => true
  | .normal, .alert => true
  | .alert, .degraded | .alert, .normal => true
  | .degraded, .recovery => true
  | .recovery, .normal => true
  | .lockdown, .recovery => true
  | _, _ => false

/-- The mode in records. -/
def name : Mode → String
  | .normal => "NORMAL"
  | .alert => "ALERT"
  | .degraded => "DEGRADED"
  | .lockdown => "LOCKDOWN"
  | .recovery => "RECOVERY"

/-- All modes. -/
def all : List Mode :=
  [.normal, .alert, .degraded, .lockdown, .recovery]

/-- The mode with a given name. -/
def ofName? (name : String) : Option Mode :=
  all.find? fun m => m.name == name

end Mode

end SteadyTask
