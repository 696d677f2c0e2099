import SteadyTask.Json.Value

/-!
# Messages

A conversation with a language model is a list of messages, each in a role.
-/

namespace SteadyTask.Llm

/-- Who a message is from. -/
inductive Role where
  | user
  | assistant
  | system
  deriving Repr, DecidableEq, Inhabited

namespace Role

/-- The role in records. -/
def name : Role → String
  | .user => "User"
  | .assistant => "Assistant"
  | .system => "System"

/-- The role in requests to a service. -/
def wireName : Role → String
  | .user => "user"
  | .assistant => "assistant"
  | .system => "system"

/-- The role with a given name. -/
def ofName? (name : String) : Option Role :=
  [user, assistant, system].find? fun r => r.name == name

end Role

/-- A message. -/
structure Message where
  role : Role
  content : String
  deriving Repr, DecidableEq, Inhabited

namespace Message

/-- A message from the user. -/
def user (content : String) : Message :=
  ⟨.user, content⟩

/-- A message that sets the stage. -/
def system (content : String) : Message :=
  ⟨.system, content⟩

/-- A message as a record. -/
def toJson (m : Message) : Json.Value :=
  .ofFields [("role", .str m.role.name), ("content", .str m.content)]

end Message

end SteadyTask.Llm
