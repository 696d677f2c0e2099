import SteadyTask.Narrative.Schema
import SteadyTask.Reflection.Entry

/-!
# Prompts for reflection

What a model is told about a finished task, and in which form it is to answer: as JSON that
conforms to a schema, or in labelled lines.
-/

namespace SteadyTask.Reflection

/-- How many characters of the reply are shown. -/
def previewChars : Nat := 300

/-- One measured number in words. -/
def metricLine (f : Metric.Field) : String :=
  "- " ++ f.name ++ " = " ++ Decimal.plainText f.value ++ " (" ++ f.measure.title ++ ")\n"

/-- The task in words. -/
def describe (input : Input) : String :=
  "Request: " ++ input.request ++ "\nFinal state: " ++ input.state.name ++
    "\nMode: " ++ input.mode.name ++ "\n" ++
    ((input.branch.map fun s => "Route: " ++ s.name ++ "\n").getD "") ++
    ((input.reply.map fun r => "Reply: " ++ Text.take previewChars r ++ "\n").getD "") ++
    ((input.failure.map fun f => "Error: " ++ f.text ++ "\n").getD "") ++
    "Metrics:\n" ++ String.join (input.summary.fields.map metricLine)

/-- Asks for JSON. -/
def schemaPrompt (description : String) : String :=
  "Reflect on the execution below. " ++
    "Respond with ONLY a JSON object that conforms to this JSON Schema:\n" ++
    Narrative.schemaText ++
    "\nDo not repeat any numbers; metrics are recorded separately.\n\n" ++ description

/-- Asks for labelled lines. -/
def labelPrompt (description : String) : String :=
  "Reflect on the execution below. Answer in exactly this format:\n" ++
    "RATIONALE: <one to three sentences>\n" ++
    "PROPOSED CHANGE: <one sentence, or none>\n" ++
    "IMPACT: <one sentence, or none>\n\n" ++ description

end SteadyTask.Reflection
