import SteadyTask.Failure
import SteadyTask.Json.Printer
import SteadyTask.Llm.Message
import SteadyTask.Time

/-!
# Clients without a service

Two clients need no service behind them.  The echoing client answers every conversation with a
call of the echo tool on the last message of the user.  The scripted client follows a script, step
by step, and falls back on one step when the script is used up.  Each keeps the conversations it
was given.
-/

namespace SteadyTask.Llm

/-- How a scripted client answers once. -/
inductive Step where
  | reply (text : String)
  | fail (e : CallError)
  /-- It answers only after a time. -/
  | hang (duration : Millis) (text : String)
  | panic (text : String)
  deriving Repr, DecidableEq, Inhabited

/-- Where the answers of a client come from. -/
inductive Behaviour where
  | echoing
  | scripted (script : List Step) (fallback : Step)
  deriving Repr, Inhabited

/-- A client. -/
structure Client where
  behaviour : Behaviour
  conversations : List (List Message)
  deriving Repr, Inhabited

/-- The content of the user's last message. -/
def lastUserContent (messages : List Message) : String :=
  match messages.reverse.find? fun m => m.role = .user with
  | some m => m.content
  | none => "(no input)"

/-- The call of the echo tool that answers a conversation. -/
def echoCall (messages : List Message) : String :=
  Json.compact (.ofFields
    [("tool", .str "echo"),
      ("args", .ofFields [("text", .str ("Echo from Mock: " ++ lastUserContent messages))])])

/-- What a script ends with unless it says otherwise. -/
def scriptExhausted : Step :=
  .fail (.connection "script exhausted")

/-- The content of the last message. -/
def lastContent (messages : List Message) : String :=
  (messages.getLast?.map Message.content).getD ""

namespace Client

/-- A client that echoes. -/
def echoing : Client :=
  ⟨.echoing, []⟩

/-- A client that follows a script. -/
def scripted (script : List Step) (fallback : Step) : Client :=
  ⟨.scripted script fallback, []⟩

/-- Takes the next step for a conversation. -/
def next (c : Client) (messages : List Message) : Client × Step :=
  let conversations := c.conversations ++ [messages]
  match c.behaviour with
  | .echoing => (⟨.echoing, conversations⟩, .reply (echoCall messages))
  | .scripted [] fallback => (⟨.scripted [] fallback, conversations⟩, fallback)
  | .scripted (step :: script) fallback => (⟨.scripted script fallback, conversations⟩, step)

/-- How often the client was called. -/
def calls (c : Client) : Nat :=
  c.conversations.length

/-- The last message of each conversation. -/
def prompts (c : Client) : List String :=
  c.conversations.map lastContent

end Client

end SteadyTask.Llm
