import SteadyTask.Json.Printer
import SteadyTask.Json.Record
import SteadyTask.Llm.ApiError
import SteadyTask.Llm.Message
import SteadyTask.Llm.Usage

/-!
# Completions

What a model service is sent for a conversation, and how its answer is read.  The first choice of
the answer is the completion; the tokens it tells of count even if there is no completion in it.
An answer with any status but one of success holds an error object.
-/

namespace SteadyTask.Llm

/-! ## Requests -/

/-- The key that is used where there is none. -/
def placeholderKey : String := "sk-placeholder"

/-- What a key comes to in the header of a request. -/
def authorization (key : Option String) : String :=
  "Bearer " ++ key.getD placeholderKey

/-- The method and the path of a request, below the base of the service. -/
def completionPath : String := "/chat/completions"

/-- The body of a request. -/
def completionRequest (model : String) (messages : List Message) : Json.Value :=
  .ofFields [("model", .str model),
    ("messages", .ofList (fun m : Message =>
      .ofFields [("role", .str m.role.wireName), ("content", .str m.content)]) messages)]

/-! ## Answers -/

/-- The tokens of an answer. -/
structure TokenCount where
  prompt : Nat
  completion : Nat
  total : Nat
  deriving Repr, DecidableEq, Inhabited

/-- One of the completions to choose from. -/
structure Choice where
  content : Option String
  deriving Repr, DecidableEq, Inhabited

/-- An answer, as far as it is used. -/
structure Completion where
  choices : List Choice
  tokens : Option TokenCount
  deriving Repr, DecidableEq, Inhabited

/-- A field whose value is read and not used. -/
def unusedField {σ α : Type} (name : String) (need : Json.Need) (read : Json.Reader α) :
    Json.Field σ :=
  ⟨name, need, fun _ s => do
    let _ ← read
    return s⟩

/-- A text that may be absent. -/
def maybeText : Json.Reader (Option String) :=
  Json.Reader.optional Json.Reader.str

/-- The roles that a service can name. -/
def serviceRoles : List String := ["system", "user", "assistant", "tool", "function"]

/-- How the message of a choice is written. -/
def choiceMessageShape : Json.Shape Choice where
  name := "struct ChatCompletionResponseMessage"
  strict := false
  start := ⟨none⟩
  fields :=
    [⟨"content", .optional, fun _ _ => do return ⟨← maybeText⟩⟩,
      unusedField "refusal" .optional maybeText,
      unusedField "role" .required (Json.Reader.choice serviceRoles)]

/-- Why a service ends a completion. -/
def finishReasons : List String :=
  ["stop", "length", "tool_calls", "content_filter", "function_call"]

/-- How a choice is written. -/
def choiceShape : Json.Shape Choice where
  name := "struct ChatChoice"
  strict := false
  start := ⟨none⟩
  fields :=
    [unusedField "index" .required (Json.Reader.word? 32),
      ⟨"message", .required, fun depth _ => Json.Reader.record choiceMessageShape depth⟩,
      unusedField "finish_reason" .optional
        (Json.Reader.optional (Json.Reader.choice finishReasons))]

/-- How tokens are written. -/
def TokenCount.shape : Json.Shape TokenCount where
  name := "struct CompletionUsage"
  strict := false
  start := ⟨0, 0, 0⟩
  fields :=
    [⟨"prompt_tokens", .required, fun _ t => do
        return { t with prompt := ← Json.Reader.word? 32 }⟩,
      ⟨"completion_tokens", .required, fun _ t => do
        return { t with completion := ← Json.Reader.word? 32 }⟩,
      ⟨"total_tokens", .required, fun _ t => do
        return { t with total := ← Json.Reader.word? 32 }⟩]

/-- How an answer is written. -/
def Completion.shape : Json.Shape Completion where
  name := "struct CreateChatCompletionResponse"
  strict := false
  start := ⟨[], none⟩
  fields :=
    [unusedField "id" .required Json.Reader.str,
      ⟨"choices", .required, fun depth c => do
        return { c with
          choices := ← Json.Reader.list (Json.Reader.record choiceShape) depth }⟩,
      unusedField "created" .required (Json.Reader.word? 32),
      unusedField "model" .required Json.Reader.str,
      unusedField "system_fingerprint" .optional maybeText,
      unusedField "object" .required Json.Reader.str,
      ⟨"usage", .optional, fun depth c => do
        return { c with
          tokens := ← Json.Reader.optional (Json.Reader.record TokenCount.shape depth) }⟩]

/-- How an error object is written. -/
def ApiFault.shape : Json.Shape ApiFault where
  name := "struct ApiError"
  strict := false
  start := ⟨"", none, none, none⟩
  fields :=
    [⟨"message", .required, fun _ f => do return { f with message := ← Json.Reader.str }⟩,
      ⟨"type", .optional, fun _ f => do return { f with type := ← maybeText }⟩,
      ⟨"param", .optional, fun _ f => do return { f with param := ← maybeText }⟩,
      ⟨"code", .optional, fun _ f => do return { f with code := ← maybeText }⟩]

/-- How an answer without success is written. -/
def errorAnswerShape : Json.Shape ApiFault where
  name := "struct WrappedError"
  strict := false
  start := ⟨"", none, none, none⟩
  fields := [⟨"error", .required, fun depth _ => Json.Reader.record ApiFault.shape depth⟩]

/-- Reads an answer. -/
def Completion.ofAnswer (status : Nat) (body : String) : Except ServiceError Completion :=
  if status < 200 ∨ 300 ≤ status then
    match Json.parseRecord errorAnswerShape body with
    | .ok fault => .error (.api fault)
    | .error e => .error (.undecodable e.message body)
  else
    match Json.parseRecord Completion.shape body with
    | .ok completion => .ok completion
    | .error e => .error (.undecodable e.message body)

/-- The text of a completion. -/
def Completion.text (c : Completion) : Except CallError String :=
  match c.choices.head?.bind Choice.content with
  | some text => .ok text
  | none => .error (.malformedResponse "empty completion")

/-- The tokens used after an answer. -/
def Completion.countTokens (c : Completion) (used : Usage) : Usage :=
  match c.tokens with
  | some t => used.add t.prompt.toUInt64 t.completion.toUInt64
  | none => used

/-- What an answer comes to: the text, and the tokens used so far. -/
def complete (answer : Except ServiceError Completion) (used : Usage) :
    Except CallError String × Usage :=
  match answer with
  | .error e => (.error e.classify, used)
  | .ok c => (c.text, c.countTokens used)

end SteadyTask.Llm
