import SteadyTask.Failure
import SteadyTask.Json.Embedded
import SteadyTask.Json.Printer
import SteadyTask.Json.Record
import SteadyTask.Route.Basic

/-!
# Reading a route

The routing model answers in plain text, which is the reply itself, or in JSON that names a tool
or a delegate.  Only an answer that starts with a brace or holds a JSON fence is taken for JSON:
braces elsewhere in prose do not count.
-/

namespace SteadyTask.Route

/-- What the routing model may say in JSON. -/
structure Choice where
  tool : Option String
  args : Option Json.Value
  delegate : Option String
  deriving Repr, Inhabited

/-- How a choice is written. -/
def Choice.shape : Json.Shape Choice where
  name := "struct RawRoute"
  strict := false
  start := ⟨none, none, none⟩
  fields :=
    [⟨"tool", .defaulted, fun _ c => do
        return { c with tool := ← Json.Reader.optional Json.Reader.str }⟩,
      ⟨"args", .defaulted, fun depth c => do
        return { c with args := ← Json.Reader.optional (Json.Reader.value depth) }⟩,
      ⟨"delegate", .defaulted, fun _ c => do
        return { c with delegate := ← Json.Reader.optional Json.Reader.str }⟩]

/-- The route that a choice names: a tool before a delegate, blank names not counted. -/
def Choice.route? (c : Choice) : Option Route :=
  match c.tool.filter (fun t => !Text.isAllBlank t), c.delegate with
  | some tool, _ => some (.toolCall tool (c.args.getD (.obj [])))
  | none, some prompt => if Text.isAllBlank prompt then none else some (.modelDelegate prompt)
  | none, none => none

/-- Whether a trimmed answer is taken for JSON. -/
def isJson (answer : List Char) : Bool :=
  (Text.splitFirst? Json.openFence answer).isSome || answer.head? = some '\x7b'

/-- Reads the JSON of an answer. -/
def ofJson (json : String) : Except CallError Route :=
  match Json.parseRecord Choice.shape json with
  | .error e => .error (.malformedResponse (e.message ++ ": " ++ json))
  | .ok choice =>
    match choice.route? with
    | some route => .ok route
    | none =>
      .error (.malformedResponse ("routing JSON names neither a tool nor a delegate: " ++ json))

/-- Reads the answer of the routing model. -/
def decode (output : String) : Except CallError Route :=
  let answer := Text.trimChars output.toList
  if answer.isEmpty then .error (.malformedResponse "empty routing output")
  else if isJson answer then
    match Json.embeddedChars? answer with
    | some json => ofJson (String.ofList json)
    | none => .ok (.handleDirect (String.ofList answer))
  else .ok (.handleDirect (String.ofList answer))

/-- The JSON that names a tool with its arguments. -/
def encodeToolCall (tool : String) (args : Json.Value) : String :=
  Json.compact (.ofFields [("tool", .str tool), ("args", args)])

/-- The JSON that names a delegate's prompt. -/
def encodeDelegate (prompt : String) : String :=
  Json.compact (.ofFields [("delegate", .str prompt)])

/-- What the routing model is told, before the tools it can choose from. -/
def instructions : String :=
  "You are the router of a personal task executor. " ++
  "For the user's request choose exactly one action:\n" ++
  "1. Answer directly: reply with plain text only, no JSON.\n" ++
  "2. Call a tool: reply with only \x7b\"tool\": \"<name>\", \"args\": \x7b...\x7d\x7d.\n" ++
  "3. Delegate to a stronger model: reply with only \x7b\"delegate\": " ++
  "\"<self-contained prompt>\"\x7d.\n" ++
  "Available tools:\n"

end SteadyTask.Route
