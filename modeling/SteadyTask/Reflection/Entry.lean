import SteadyTask.Metric.Field
import SteadyTask.Task.Context
import SteadyTask.Timestamp

/-!
# Records of reflection

After a task a record is kept of how it went: measured numbers, and where a narrative could be
had, a rationale and a proposed change.  The numbers come from the summary alone.
-/

namespace SteadyTask.Reflection

/-- How the narrative of a record was had. -/
inductive Tier where
  | schemaGuided
  | manualParse
  | minimal
  deriving Repr, DecidableEq, Inhabited

namespace Tier

/-- The tier in records. -/
def name : Tier → String
  | .schemaGuided => "schema_guided"
  | .manualParse => "manual_parse"
  | .minimal => "minimal"

/-- The tier with a given name. -/
def ofName? (name : String) : Option Tier :=
  [schemaGuided, manualParse, minimal].find? fun t => t.name == name

end Tier

/-- What could be done better, and what it would bring. -/
structure ProposedChange where
  description : String
  impact : Option String
  deriving Repr, DecidableEq, Inhabited

/-- A record. -/
structure Entry where
  trace : String
  state : Task.State
  durationSeconds : Float
  createdAt : Timestamp
  rationale : Option String
  metrics : List Metric.Field
  proposedChange : Option ProposedChange
  tier : Tier
  deriving Repr, Inhabited

/-- What is known about a task when it is reflected on. -/
structure Input where
  trace : String
  request : String
  state : Task.State
  branch : Option Task.State
  reply : Option String
  failure : Option Failure
  mode : Mode
  summary : Metric.Summary
  deriving Repr, Inhabited

/-- What a finished task hands over to reflection. -/
def Input.ofContext (trace request : String) (c : Task.Context) (mode : Mode)
    (summary : Metric.Summary) : Input where
  trace := trace
  request := request
  state := c.state
  branch := c.branch?
  reply := c.reply
  failure := c.failure
  mode := mode
  summary := summary

/-- A change as a record. -/
def ProposedChange.toJson (c : ProposedChange) : Json.Value :=
  .obj [("description", .str c.description), ("impact", .ofText? c.impact)]

/-- A numeric field as a record, in the order in which it is stored. -/
def metricJson (f : Metric.Field) : Json.Value :=
  .obj [("name", .str f.name), ("value", .float f.value), ("unit", .str f.measure.name)]

namespace Entry

/-- The number with a given name. -/
def metric? (e : Entry) (name : String) : Option Float :=
  (e.metrics.find? fun f => f.name == name).map Metric.Field.value

/-- A record in the order in which it is stored. -/
def toJson (e : Entry) : Json.Value :=
  .obj [("trace_id", .str e.trace), ("final_state", .str e.state.name),
    ("duration_seconds", .float e.durationSeconds), ("created_at", .str e.createdAt.text),
    ("rationale", .ofText? e.rationale), ("metrics", .ofList metricJson e.metrics),
    ("proposed_change", .ofOption ProposedChange.toJson e.proposedChange),
    ("tier", .str e.tier.name)]

end Entry

end SteadyTask.Reflection
