import SteadyTask.Failure
import SteadyTask.Metric.Summary
import SteadyTask.Task.State

/-!
# The context of a task

A context records the states that a task went through, each with a short detail, and how it ended.
It advances only along the graph of states, and the first failure stays.
-/

namespace SteadyTask.Task

/-- A state that was entered. -/
structure Step where
  state : State
  detail : Option String
  deriving Repr, DecidableEq, Inhabited

/-- What is known about a task. -/
structure Context where
  state : State
  steps : List Step
  summary : Option Metric.Summary
  reply : Option String
  failure : Option Failure
  deriving Repr, Inhabited

namespace Context

/-- A task that is about to be routed. -/
def start : Context where
  state := .routing
  steps := [⟨.routing, none⟩]
  summary := none
  reply := none
  failure := none

/-- Advances to a state, if there is a way; says whether there was. -/
def advance (c : Context) (next : State) (detail : Option String) : Context × Bool :=
  if c.state.canAdvance next then
    ({ c with state := next, steps := c.steps ++ [⟨next, detail⟩] }, true)
  else (c, false)

/-- Fails, unless the task has ended. -/
def fail (c : Context) (failure : Failure) : Context :=
  if c.state.isTerminal then c
  else { (c.advance .failed (some failure.text)).1 with failure := some failure }

/-- The branch that a task went into. -/
def branch? (c : Context) : Option State :=
  (c.steps.map Step.state).find? State.isBranch

/-! ## Runs -/

/-- An operation on a context. -/
inductive Operation where
  | advance (next : State) (detail : Option String)
  | fail (failure : Failure)

/-- The context after an operation. -/
def perform (c : Context) : Operation → Context
  | .advance next detail => (c.advance next detail).1
  | .fail failure => c.fail failure

/-- The context after operations. -/
def run (c : Context) (operations : List Operation) : Context :=
  operations.foldl perform c

end Context

/-! ## Records -/

/-- A step as a record. -/
def Step.toJson (s : Step) : Json.Value :=
  .ofFields [("state", .str s.state.name), ("detail", .ofText? s.detail)]

/-- A failure as a record. -/
def failureJson (f : Failure) : Json.Value :=
  .ofFields [("kind", .str f.kind.name), ("message", .str f.message)]

/-- A context as a record. -/
def Context.toJson (c : Context) : Json.Value :=
  .ofFields [("final_state", .str c.state.name), ("steps", .ofList Step.toJson c.steps),
    ("metrics_summary", .ofOption Metric.Summary.toJson c.summary),
    ("reply", .ofText? c.reply), ("error", .ofOption failureJson c.failure)]

end SteadyTask.Task
