import SteadyTask.Failure
import SteadyTask.Mode.Basic

/-!
# Governance

Whether an operation may be carried out depends on the mode.  The rule is an open one: anything
that answers by mode and operation will do, also one that panics.  By default lockdown forbids
tools and delegates, and degraded operation forbids delegates.
-/

namespace SteadyTask.Mode

/-- An operation that has to be permitted. -/
inductive Operation where
  | toolCall
  | modelDelegate
  deriving Repr, DecidableEq

/-- The operation in messages. -/
def Operation.name : Operation → String
  | .toolCall => "ToolCall"
  | .modelDelegate => "ModelDelegate"

/-- A rule that permits operations by mode, or panics when it is asked. -/
structure Governance where
  rule : Mode → Operation → Except Panic Bool

namespace Governance

/-- Lockdown forbids tools and delegates, degraded operation forbids delegates. -/
def byMode : Governance where
  rule
    | .lockdown, _ => .ok false
    | .degraded, .modelDelegate => .ok false
    | _, _ => .ok true

/-- Everything is permitted. -/
def allowAll : Governance where
  rule _ _ := .ok true

/-- Nothing is permitted. -/
def denyAll : Governance where
  rule _ _ := .ok false

/-- Whether a rule permits an operation in a mode. -/
def permits (g : Governance) (mode : Mode) (operation : Operation) : Bool :=
  match g.rule mode operation with
  | .ok answer => answer
  | .error _ => false

end Governance

end SteadyTask.Mode
