import SteadyTask.Activity
import SteadyTask.Json.Embedded
import SteadyTask.Narrative.Parse
import SteadyTask.Reflection.Prompt

/-!
# Reflecting on a task

A narrative is asked for in up to two ways, each of which can be switched off: as JSON by schema,
then as labelled lines.  Each way makes at most one call of the model, under a time limit.  If
neither gives a narrative, the record holds numbers alone.  Whatever the model does, there is a
record, and its numbers do not depend on the model.
-/

namespace SteadyTask.Reflection

/-- Which ways are tried, and how long a call of the model may take. -/
structure Settings where
  schemaGuided : Bool
  manualParse : Bool
  limit : Millis
  deriving Repr, DecidableEq, Inhabited

/-- Why a way gave no narrative. -/
inductive TierFault where
  | disabled
  | generation (text : String)
  | timeout
  | validation (text : String)
  deriving Repr, DecidableEq

/-- The cause in words. -/
def TierFault.message : TierFault → String
  | .disabled => "tier disabled"
  | .generation text => "generation failed: " ++ text
  | .timeout => "generation timed out"
  | .validation text => "validation failed: " ++ text

/-- The text of a model's answer. -/
def answerText : Outcome CallError String → Except TierFault String
  | .value text => .ok text
  | .error e => .error (.generation e.message)
  | .overdue => .error .timeout
  | .panicked _ => .error (.generation "llm client panicked")

/-- The narrative in an answer by schema. -/
def schemaNarrative (output : String) : Except TierFault Narrative.Fields :=
  match Json.embedded? output with
  | none => .error (.validation "no JSON object in output")
  | some json =>
    match Json.parseRecord Narrative.Fields.shape json with
    | .error e => .error (.validation e.message)
    | .ok fields =>
      match fields.normalize.validate with
      | .error cause => .error (.validation cause.message)
      | .ok () => .ok fields.normalize

/-- The narrative in an answer in labelled lines. -/
def labelNarrative (output : String) : Except TierFault Narrative.Fields :=
  match Narrative.parse output with
  | .error cause => .error (.validation cause.message)
  | .ok fields => .ok fields

/-- Asks for a narrative in one way, if it is switched on. -/
def tryTier (enabled : Bool) (client prompt : String) (limit : Millis)
    (narrative : String → Except TierFault Narrative.Fields) :
    Activity (Except TierFault Narrative.Fields) :=
  if enabled then do
    let outcome ← Activity.perform (.ask client [.user prompt] (some limit))
    return (answerText outcome).bind narrative
  else return .error .disabled

/-- The record of a task with a narrative from a given tier. -/
def entryOf (input : Input) (createdAt : Timestamp) (tier : Tier)
    (narrative : Option Narrative.Fields) : Entry where
  trace := input.trace
  state := input.state
  durationSeconds := input.summary.durationSeconds
  createdAt := createdAt
  rationale := narrative.map Narrative.Fields.rationale
  metrics := input.summary.fields
  proposedChange := narrative.bind fun n => n.proposedChange.map fun text => ⟨text, n.impact⟩
  tier := tier

/-- A record, with what went wrong on the way to it. -/
structure Generated where
  entry : Entry
  faults : List TierFault
  deriving Repr

/-- Reflects on a task.  The clock of the activity started at a given point in calendar time. -/
def generate (settings : Settings) (client : String) (start : Timestamp) (input : Input) :
    Activity Generated := do
  let description := describe input
  let finish (tier : Tier) (narrative : Option Narrative.Fields) (faults : List TierFault) :
      Activity Generated := do
    let now ← Activity.perform .now
    return ⟨entryOf input (start.later now) tier narrative, faults⟩
  match ← tryTier settings.schemaGuided client (schemaPrompt description) settings.limit
      schemaNarrative with
  | .ok narrative => finish .schemaGuided (some narrative) []
  | .error first =>
    match ← tryTier settings.manualParse client (labelPrompt description) settings.limit
        labelNarrative with
    | .ok narrative => finish .manualParse (some narrative) [first]
    | .error second => finish .minimal none [first, second]

end SteadyTask.Reflection
