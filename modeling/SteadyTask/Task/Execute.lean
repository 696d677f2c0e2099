import SteadyTask.Mode.Governance
import SteadyTask.Route.Decode
import SteadyTask.Task.Retry
import SteadyTask.Tool.Call

/-!
# Executing a task

A task is routed, and its branch is carried out if the governance permits it in the mode at that
moment.  Whatever happens on the way, the monitor that was started for the task is stopped once,
its summary is recorded and evaluated, and the task is handed over to reflection, which the caller
does not wait for.
-/

namespace SteadyTask.Task

/-- Where routes come from. -/
inductive Router where
  /-- A model that is told what it can choose from. -/
  | planner (client instructions : String)
  /-- A router from outside. -/
  | installed
  deriving Repr, Inhabited

/-- Everything that stays the same from task to task. -/
structure Executor where
  router : Router
  delegate : String
  registry : Tool.Registry
  governance : Mode.Governance
  recovery : Recovery

/-- The route in the answer of a routing model. -/
def routeAnswer : Outcome CallError String → Outcome CallError Route
  | .value output =>
    match Route.decode output with
    | .ok route => .value route
    | .error e => .error e
  | .error e => .error e
  | .overdue => .overdue
  | .panicked p => .panicked p

namespace Executor

/-- Routes a request once. -/
def routeOnce (x : Executor) (request : String) : Activity (Outcome CallError Route) :=
  let limit := (x.recovery.policy .model).limit
  match x.router with
  | .planner client instructions => do
    let outcome ←
      Activity.perform (.ask client [.system instructions, .user request] (some limit))
    return routeAnswer outcome
  | .installed => Activity.perform (.consult limit)

/-- Calls a tool once. -/
def callToolOnce (x : Executor) (tool : String) (args : Json.Value) :
    Activity (Outcome CallError String) := do
  return (← Tool.call x.registry tool args (x.recovery.policy .tool).limit).outcome

/-- Asks the delegate once. -/
def delegateOnce (x : Executor) (prompt : String) : Activity (Outcome CallError String) :=
  Activity.perform (.ask x.delegate [.user prompt] (some (x.recovery.policy .model).limit))

/-- The failure of an operation that is not permitted. -/
def denied (operation : Mode.Operation) (mode : Mode) : Failure :=
  ⟨.permissionDenied, operation.name ++ " is not permitted in " ++ mode.name ++ " mode"⟩

/-- Carries out an operation if it is permitted in the mode at this moment. -/
def ifPermitted (x : Executor) (operation : Mode.Operation) (work : Activity (Ending String)) :
    Activity (Ending String) := do
  let mode ← Activity.perform .mode
  match x.governance.rule mode operation with
  | .ok true => work
  | .ok false => return .failed (denied operation mode)
  | .error p => return .panicked p

/-- The state and the detail with which a task goes into a branch. -/
def branchOf : Route → State × Option String
  | .handleDirect _ => (.handleDirect, none)
  | .toolCall tool _ => (.toolCall, some tool)
  | .modelDelegate _ => (.modelDelegate, none)

/-- Carries out a route. -/
def carryOut (x : Executor) : Route → Activity (Ending String)
  | .handleDirect reply => return .value reply
  | .toolCall tool args =>
    x.ifPermitted .toolCall (retry x.recovery .tool (x.callToolOnce tool args))
  | .modelDelegate prompt =>
    x.ifPermitted .modelDelegate (retry x.recovery .model (x.delegateOnce prompt))

/-- Routes a request and carries out the route. -/
def work (x : Executor) (request : String) (c : Context) : Activity (Context × Ending String) := do
  match ← retry x.recovery .model (x.routeOnce request) with
  | .failed f => return (c, .failed f)
  | .panicked p => return (c, .panicked p)
  | .value route =>
    let (state, detail) := branchOf route
    let ending ← x.carryOut route
    return ((c.advance state detail).1, ending)

/-- The context of a task whose work has ended. -/
def close (c : Context) : Ending String → Context
  | .value reply =>
    let c := { c with reply := some reply }
    let c := (c.advance .reflection none).1
    (c.advance .completed none).1
  | .failed f => c.fail f
  | .panicked p => c.fail ⟨.internal, "task panicked: " ++ p.message⟩

/-- Executes a request. -/
def execute (x : Executor) (trace request : String) : Activity Context := do
  let monitor ← Activity.perform .startMonitor
  let (c, ending) ← x.work request Context.start
  let c := close c ending
  let summary ← Activity.perform (.stopMonitor monitor)
  Activity.perform (.evaluate summary)
  let mode ← Activity.perform .mode
  Activity.perform (.reflect (.ofContext trace request c mode summary))
  return { c with summary := some summary }

end Executor

end SteadyTask.Task
