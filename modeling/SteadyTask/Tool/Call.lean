import SteadyTask.Activity
import SteadyTask.Text.Search
import SteadyTask.Tool.Registry

/-!
# Calling tools

A call of a tool has a time limit and leaves an audit record, unless the tool panics.  A tool that
is not registered is an unusable answer of the routing model.
-/

namespace SteadyTask.Tool

/-- The text that the echo tool gives back. -/
def echoText (args : Json.Value) : String :=
  ((args.get? "text").bind Json.Value.asStr?).getD "(empty)"

/-- The groups that a report of the sensors is asked for. -/
def requestedGroups (args : Json.Value) : Except CallError (List Sensor.Group) :=
  match ((args.get? "group").bind Json.Value.asStr?).getD "all" with
  | "host" => .ok [.host]
  | "accelerator" => .ok [.accelerator]
  | "all" => .ok [.host, .accelerator]
  | other => .error (.malformedResponse ("unknown metric group '" ++ other ++ "'"))

/-- What one group adds to a report: fields, or an error of the report.  In a report of several
groups one that is unavailable is noted and the report goes on. -/
def reportGroup (several : Bool) (g : Sensor.Group) (fields : List (String × Json.Value)) :
    Outcome Sensor.Fault Metric.Values → Outcome CallError (List (String × Json.Value))
  | .value values =>
    .value (values.foldl (fun fields pair => Json.setField pair.1 (.float pair.2) fields) fields)
  | .overdue => .overdue
  | .panicked p => .panicked p
  | .error (.timedOut limit) => .error (.timeout (g.name ++ " sensors after " ++ limit.text))
  | .error (.unavailable text) =>
    if several then .value (Json.setField (g.name ++ "_error") (.str text) fields)
    else .error (.connection (Sensor.Fault.unavailable text).message)
  | .error fault => .error (.connection fault.message)

/-- Reports groups, one after another. -/
def report (several : Bool) (deadline : Option Millis) :
    List Sensor.Group → List (String × Json.Value) → Activity (Outcome CallError String)
  | [], fields => return .value (Json.compact (.obj fields))
  | g :: rest, fields => do
    match reportGroup several g fields (← Activity.perform (.read g deadline)) with
    | .value fields => report several deadline rest fields
    | .error e => return .error e
    | .overdue => return .overdue
    | .panicked p => return .panicked p

/-- Reports the groups that are asked for. -/
def reportMetrics (args : Json.Value) (limit : Millis) : Activity (Outcome CallError String) :=
  match requestedGroups args with
  | .error e => return .error e
  | .ok groups => do
    let now ← Activity.perform .now
    report (groups.length > 1) (some (Millis.after now limit)) groups []

/-- Lets a tool do its work. -/
def work (registry : Registry) (name : String) (args : Json.Value) (limit : Millis) :
    Activity (Outcome CallError String) :=
  match registry.get? name with
  | none => return .error (.malformedResponse ("Unknown tool: " ++ name))
  | some tool =>
    match tool.worker with
    | .echo => return .value (echoText args)
    | .metrics => reportMetrics args limit
    | .installed => Activity.perform (.useTool name args limit)

/-! ## Audit -/

/-- How a call ended. -/
inductive Verdict where
  | ok
  | error
  | timeout
  deriving Repr, DecidableEq

/-- The verdict in records. -/
def Verdict.name : Verdict → String
  | .ok => "ok"
  | .error => "error"
  | .timeout => "timeout"

/-- A record of a call. -/
structure Audit where
  tool : String
  verdict : Verdict
  argsPreview : String
  deriving Repr, DecidableEq

/-- How many characters of the arguments are recorded. -/
def previewChars : Nat := 200

/-- The arguments, cut to a length. -/
def argsPreview (args : Json.Value) : String :=
  let text := Json.compact args
  if text.length > previewChars then Text.take previewChars text ++ "..." else text

/-- A record as JSON. -/
def Audit.toJson (a : Audit) : Json.Value :=
  .ofFields [("event", .str "tool_audit"), ("tool", .str a.tool),
    ("ok", .bool (a.verdict = .ok)), ("outcome", .str a.verdict.name),
    ("args_preview", .str a.argsPreview)]

/-- The verdict on an outcome; a panic has none. -/
def verdict? : Outcome CallError String → Option Verdict
  | .value _ => some .ok
  | .error _ => some .error
  | .overdue => some .timeout
  | .panicked _ => none

/-- A tool that was not over within its limit has failed. -/
def settle (name : String) (limit : Millis) : Outcome CallError String → Outcome CallError String
  | .overdue => .error (.timeout ("tool '" ++ name ++ "' exceeded " ++ limit.text))
  | outcome => outcome

/-- A call and its record. -/
structure Called where
  outcome : Outcome CallError String
  audit : Option Audit
  deriving Repr

/-- Calls a tool. -/
def call (registry : Registry) (name : String) (args : Json.Value) (limit : Millis) :
    Activity Called := do
  let outcome ← work registry name args limit
  return ⟨settle name limit outcome,
    (verdict? outcome).map fun verdict => ⟨name, verdict, argsPreview args⟩⟩

end SteadyTask.Tool
