import SteadyTask.Config.Settings
import SteadyTask.Severity
import SteadyTask.Text.Fold

/-!
# Choosing a model service

Which client answers the conversations follows from the settings and from the keys that the
environment holds.  The DeepSeek service needs its own key and has to be asked for; any other
service is spoken to in the same way with the other key; without a key the echoing client answers.
-/

namespace SteadyTask.Llm

/-- How a service is reached. -/
structure Endpoint where
  baseUrl : Option String
  model : String
  key : String
  deriving Repr, DecidableEq, Inhabited

/-- What answers the conversations. -/
inductive Selection where
  | deepSeek (endpoint : Endpoint)
  | compatible (endpoint : Endpoint)
  | echoing
  deriving Repr, DecidableEq, Inhabited

namespace Selection

/-- The variable with the key of the DeepSeek service. -/
def deepSeekVariable : String := "DEEPSEEK_API_KEY"

/-- The variable with the key of other services. -/
def compatibleVariable : String := "OPENAI_API_KEY"

/-- Where the DeepSeek service is, unless the settings say otherwise. -/
def deepSeekUrl : String := "https://api.deepseek.com"

/-- Whether the settings ask for the DeepSeek service. -/
def asksForDeepSeek (b : Config.Backend) : Bool :=
  Text.lower b.provider = "deepseek"

/-- Chooses by the settings and the keys that there are. -/
def choose (b : Config.Backend) (deepSeekKey compatibleKey : Option String) : Selection :=
  match deepSeekKey.filter fun _ => asksForDeepSeek b, compatibleKey with
  | some key, _ => .deepSeek ⟨some (b.baseUrl.getD deepSeekUrl), b.model, key⟩
  | none, some key => .compatible ⟨b.baseUrl, b.model, key⟩
  | none, none => .echoing

/-- Chooses by the settings and the environment. -/
def ofVariables (b : Config.Backend) (environment : List (String × String)) : Selection :=
  choose b (environment.lookup deepSeekVariable) (environment.lookup compatibleVariable)

/-- How the choice is reported. -/
def report : Selection → Severity × String
  | .deepSeek e => (.info, "Using DeepSeek LLM (" ++ e.model ++ ")")
  | .compatible e => (.info, "Using OpenAI-compatible LLM (" ++ e.model ++ ")")
  | .echoing => (.warn, "No API key set or provider unknown, using Mock LLM")

end Selection

end SteadyTask.Llm
