import SteadyTask.Json.Value

/-!
# Routes

A request is answered directly, handed to a tool, or delegated to another model.
-/

namespace SteadyTask

/-- What becomes of a request. -/
inductive Route where
  | handleDirect (reply : String)
  | toolCall (tool : String) (args : Json.Value)
  | modelDelegate (prompt : String)
  deriving Repr, BEq, Inhabited

/-- A route as a record. -/
def Route.toJson : Route → Json.Value
  | .handleDirect reply => .ofFields [("HandleDirect", .ofFields [("reply", .str reply)])]
  | .toolCall tool args =>
    .ofFields [("ToolCall", .ofFields [("tool", .str tool), ("args", args)])]
  | .modelDelegate prompt => .ofFields [("ModelDelegate", .ofFields [("prompt", .str prompt)])]

end SteadyTask
