/-!
# States of a task

A task starts by being routed, goes into one of three branches, then into reflection, and is
completed.  From every state that is not final it can fail.
-/

namespace SteadyTask.Task

/-- Where a task stands. -/
inductive State where
  | routing
  | handleDirect
  | toolCall
  | modelDelegate
  | reflection
  | completed
  | failed
  deriving Repr, DecidableEq, Inhabited

namespace State

/-- Whether a task ends here. -/
def isTerminal : State → Bool
  | .completed | .failed => true
  | _ => false

/-- Whether this is one of the three branches. -/
def isBranch : State → Bool
  | .handleDirect | .toolCall | .modelDelegate => true
  | _ => false

/-- Whether a task can go from one state straight to another. -/
def canAdvance (s next : State) : Bool :=
  match s, next with
  | s, .failed => !s.isTerminal
  | .routing, next => next.isBranch
  | s, .reflection => s.isBranch
  | .reflection, .completed => true
  | _, _ => false

/-- The state in records. -/
def name : State → String
  | .routing => "ROUTING"
  | .handleDirect => "HANDLE_DIRECT"
  | .toolCall => "TOOL_CALL"
  | .modelDelegate => "MODEL_DELEGATE"
  | .reflection => "REFLECTION"
  | .completed => "COMPLETED"
  | .failed => "FAILED"

/-- All states. -/
def all : List State :=
  [.routing, .handleDirect, .toolCall, .modelDelegate, .reflection, .completed, .failed]

/-- The state with a given name. -/
def ofName? (name : String) : Option State :=
  all.find? fun s => s.name == name

end State

end SteadyTask.Task
