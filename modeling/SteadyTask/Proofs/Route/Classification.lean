import SteadyTask.Proofs.Json.Results
import SteadyTask.Proofs.Task.Evaluations
import SteadyTask.Proofs.Task.Malformed
import SteadyTask.Proofs.Text.Blanks
import SteadyTask.Proofs.Text.Occurrence
import SteadyTask.Route.Decode

/-!
# What an answer of the routing model comes to

An answer with nothing in it is malformed, prose is the reply, and what looks like JSON is a tool's
call, a delegation or malformed, by what the JSON in it names.  So a route always comes with a text
that is not blank, and a malformed answer is the last one that a task asks its router for.

How a choice is written in JSON is not settled here, except that `null` is no value of a field.
-/

namespace SteadyTask.Route

open Json (openFence)

/-! ## Choices -/

/-- The text that a route comes with. -/
def payload : Route → String
  | .handleDirect reply => reply
  | .toolCall tool _ => tool
  | .modelDelegate prompt => prompt

namespace Choice

/-- The choice names a tool. -/
def NamesTool (c : Choice) (tool : String) : Prop :=
  c.tool = some tool ∧ Text.isAllBlank tool = false

/-- The choice names no tool, but it has a prompt for a delegate. -/
def NamesDelegate (c : Choice) (prompt : String) : Prop :=
  (∀ tool ∈ c.tool, Text.isAllBlank tool = true) ∧
    c.delegate = some prompt ∧ Text.isAllBlank prompt = false

variable {c : Choice} {tool prompt : String}

theorem NamesTool.route (h : c.NamesTool tool) :
    c.route? = some (.toolCall tool (c.args.getD (.obj []))) := by
  have hKept : c.tool.filter (fun t => !Text.isAllBlank t) = some tool := by
    simp [Option.filter_eq_some_iff, h.1, h.2]
  simp only [route?, hKept]

theorem NamesDelegate.route (h : c.NamesDelegate prompt) :
    c.route? = some (.modelDelegate prompt) := by
  have hNone : c.tool.filter (fun t => !Text.isAllBlank t) = none := by
    simpa [Option.filter_eq_none_iff] using h.1
  simp only [route?, hNone, h.2.1, h.2.2]
  rfl

/-- The route of a choice is what it names. -/
theorem route?_eq_some_iff {route : Route} :
    c.route? = some route ↔
      (∃ tool, c.NamesTool tool ∧ route = .toolCall tool (c.args.getD (.obj []))) ∨
        ∃ prompt, c.NamesDelegate prompt ∧ route = .modelDelegate prompt := by
  constructor
  · intro h
    cases hTool : c.tool.filter fun t => !Text.isAllBlank t with
    | some tool =>
        simp only [route?, hTool] at h
        have hNames : c.NamesTool tool := by
          simpa [Option.filter_eq_some_iff, NamesTool] using hTool
        exact .inl ⟨tool, hNames, (Option.some.inj h).symm⟩
    | none =>
        have hNone : ∀ tool ∈ c.tool, Text.isAllBlank tool = true := by
          simpa [Option.filter_eq_none_iff] using hTool
        cases hDelegate : c.delegate with
        | none =>
            simp only [route?, hTool, hDelegate] at h
            cases h
        | some prompt =>
            simp only [route?, hTool, hDelegate] at h
            split at h
            · cases h
            · next hBlank =>
                have hNames : c.NamesDelegate prompt :=
                  ⟨hNone, hDelegate, Bool.eq_false_of_not_eq_true hBlank⟩
                exact .inr ⟨prompt, hNames, (Option.some.inj h).symm⟩
  · rintro (⟨tool, hTool, rfl⟩ | ⟨prompt, hPrompt, rfl⟩)
    · exact hTool.route
    · exact hPrompt.route

end Choice

/-- No field of a choice is `null` where it is there. -/
theorem args_ne_null {json : String} {c : Choice}
    (h : Json.parseRecord Choice.shape json = .ok c) : c.args ≠ some .null := by
  let NotNull (c : Choice) : Prop := c.args ≠ some .null
  have hStart : NotNull Choice.shape.start := (nofun : (none : Option Json.Value) ≠ some .null)
  refine Json.Reader.good_of_parseRecord NotNull ?_ hStart h
  intro field hField depth c hc
  simp only [Choice.shape, List.mem_cons, List.not_mem_nil, or_false] at hField
  rcases hField with rfl | rfl | rfl
  · exact .after fun _ => .pure hc
  · exact (Json.Reader.returns_optional_value depth).bind fun _ hArgs => .pure hArgs
  · exact .after fun _ => .pure hc

/-! ## The JSON of an answer -/

theorem ofJson_eq_ok_iff {json : String} {route : Route} :
    ofJson json = .ok route ↔
      ∃ c, Json.parseRecord Choice.shape json = .ok c ∧ c.route? = some route := by
  rw [ofJson]
  cases hParse : Json.parseRecord Choice.shape json with
  | error e => simp
  | ok c => cases hRoute : c.route? <;> simp [hRoute]

/-- What is no route is malformed. -/
theorem exists_of_ofJson_error {json : String} {error : CallError}
    (h : ofJson json = .error error) : ∃ text, error = .malformedResponse text := by
  unfold ofJson at h
  split at h
  · cases h
    exact ⟨_, rfl⟩
  · split at h
    · cases h
    · cases h
      exact ⟨_, rfl⟩

/-- A result is what some JSON says. -/
structure Says (json : String) (result : Except CallError Route) : Prop where
  not_direct : ∀ reply, result ≠ .ok (.handleDirect reply)
  tool_iff : ∀ tool args, result = .ok (.toolCall tool args) ↔
    ∃ c, Json.parseRecord Choice.shape json = .ok c ∧ c.NamesTool tool ∧
      args = c.args.getD (.obj [])
  args_ne_null : ∀ c, Json.parseRecord Choice.shape json = .ok c → c.args ≠ some .null
  delegate_iff : ∀ prompt, result = .ok (.modelDelegate prompt) ↔
    ∃ c, Json.parseRecord Choice.shape json = .ok c ∧ c.NamesDelegate prompt
  malformed_iff : (∃ text, result = .error (.malformedResponse text)) ↔
    ¬ ∃ c, Json.parseRecord Choice.shape json = .ok c ∧
      ((∃ tool, c.NamesTool tool) ∨ ∃ prompt, c.NamesDelegate prompt)

theorem says_ofJson (json : String) : Says json (ofJson json) where
  not_direct reply h := by
    obtain ⟨c, -, hRoute⟩ := ofJson_eq_ok_iff.mp h
    rcases Choice.route?_eq_some_iff.mp hRoute with ⟨_, -, hEq⟩ | ⟨_, -, hEq⟩ <;> cases hEq
  tool_iff tool args := by
    simp [ofJson_eq_ok_iff, Choice.route?_eq_some_iff]
  args_ne_null c h := Route.args_ne_null h
  delegate_iff prompt := by
    simp [ofJson_eq_ok_iff, Choice.route?_eq_some_iff]
  malformed_iff := by
    constructor
    · rintro ⟨text, hError⟩ ⟨c, hParse, hNames⟩
      obtain ⟨route, hRoute⟩ : ∃ route, c.route? = some route := by
        rcases hNames with ⟨tool, hTool⟩ | ⟨prompt, hPrompt⟩
        · exact ⟨_, hTool.route⟩
        · exact ⟨_, hPrompt.route⟩
      rw [ofJson_eq_ok_iff.mpr ⟨c, hParse, hRoute⟩] at hError
      cases hError
    · intro hNone
      cases hResult : ofJson json with
      | error e =>
          obtain ⟨text, rfl⟩ := exists_of_ofJson_error hResult
          exact ⟨text, rfl⟩
      | ok route =>
          obtain ⟨c, hParse, hRoute⟩ := ofJson_eq_ok_iff.mp hResult
          refine absurd ⟨c, hParse, ?_⟩ hNone
          exact (Choice.route?_eq_some_iff.mp hRoute).imp (fun ⟨tool, h, _⟩ => ⟨tool, h⟩)
            fun ⟨prompt, h, _⟩ => ⟨prompt, h⟩

/-! ## Three kinds of answers -/

/-- A text looks like JSON: there is a fence of JSON in it, or it starts with a brace. -/
def LooksLikeJson (s : String) : Prop :=
  openFence <:+: s.toList ∨ s.toList.head? = some '\x7b'

instance (s : String) : Decidable (LooksLikeJson s) :=
  inferInstanceAs (Decidable (_ ∨ _))

theorem isJson_iff {s : String} : isJson s.toList = true ↔ LooksLikeJson s := by
  rw [isJson, Bool.or_eq_true, decide_eq_true_iff, Option.isSome_iff_ne_none, Ne,
    Text.splitFirst?_eq_none_iff, not_not, LooksLikeJson]

/-- There is JSON in what looks like it. -/
theorem LooksLikeJson.exists_embedded {s : String} (h : LooksLikeJson s) :
    ∃ json, Json.embedded? s = some json := by
  have hSome : ∃ json, Json.embeddedChars? s.toList = some json := by
    unfold Json.embeddedChars?
    cases hSplit : Text.splitFirst? openFence s.toList with
    | some parts =>
        cases hRest : Text.splitFirst? Json.fence parts.2 with
        | some inside =>
            simp only [hRest]
            exact ⟨_, rfl⟩
        | none =>
            simp only [hRest]
            exact ⟨_, rfl⟩
    | none =>
        -- without a fence it starts with a brace
        have hBrace := h.resolve_left (Text.splitFirst?_eq_none_iff.mp hSplit)
        obtain ⟨rest, hRest⟩ := List.head?_eq_some_iff.mp hBrace
        have hFrom : s.toList.dropWhile (· ≠ '\x7b') = '\x7b' :: rest := by
          rw [hRest, List.dropWhile_cons_of_neg (by simp)]
        simp only [Json.braced?, hFrom]
        cases Text.throughLast? (· = '\x7d') ('\x7b' :: rest) with
        | some inside => exact ⟨_, rfl⟩
        | none => exact ⟨_, rfl⟩
  obtain ⟨json, hJson⟩ := hSome
  exact ⟨String.ofList json, by rw [Json.embedded?, hJson, Option.map_some]⟩

variable {output : String}

theorem decode_of_blank (h : Text.trim output = "") :
    decode output = .error (.malformedResponse "empty routing output") := by
  rw [decode, ← Text.toList_trim, h]
  rfl

/-- Prose is the reply. -/
theorem decode_of_prose (hSome : Text.trim output ≠ "")
    (hProse : ¬ LooksLikeJson (Text.trim output)) :
    decode output = .ok (.handleDirect (Text.trim output)) := by
  rw [decode, ← Text.toList_trim]
  simp only [List.isEmpty_iff, String.toList_eq_nil_iff, hSome, if_false, isJson_iff, hProse,
    String.ofList_toList]

/-- What looks like JSON is read as the JSON in it. -/
theorem decode_of_looksLikeJson {json : String} (h : LooksLikeJson (Text.trim output))
    (hJson : Json.embedded? (Text.trim output) = some json) : decode output = ofJson json := by
  have hSome : Text.trim output ≠ "" := by
    intro hNone
    rw [hNone] at h
    revert h
    decide
  obtain ⟨cs, hChars, rfl⟩ := Option.map_eq_some_iff.mp hJson
  rw [decode, ← Text.toList_trim]
  simp only [List.isEmpty_iff, String.toList_eq_nil_iff, hSome, if_false, isJson_iff, h, if_true,
    hChars]

/-- An answer is empty, prose, or read as some JSON. -/
theorem decode_cases (output : String) :
    decode output = .error (.malformedResponse "empty routing output") ∨
      (Text.trim output ≠ "" ∧ decode output = .ok (.handleDirect (Text.trim output))) ∨
      ∃ json, decode output = ofJson json := by
  rcases eq_or_ne (Text.trim output) "" with hNone | hSome
  · exact .inl (decode_of_blank hNone)
  · by_cases hJson : LooksLikeJson (Text.trim output)
    · obtain ⟨json, hEmbedded⟩ := hJson.exists_embedded
      exact .inr (.inr ⟨json, decode_of_looksLikeJson hJson hEmbedded⟩)
    · exact .inr (.inl ⟨hSome, decode_of_prose hSome hJson⟩)

theorem exists_of_decode_error {error : CallError} (h : decode output = .error error) :
    ∃ text, error = .malformedResponse text := by
  rcases decode_cases output with hEmpty | ⟨-, hProse⟩ | ⟨json, hJson⟩
  · rw [hEmpty] at h
    cases h
    exact ⟨_, rfl⟩
  · rw [hProse] at h
    cases h
  · rw [hJson] at h
    exact exists_of_ofJson_error h

/-- A route comes with a text that is not blank. -/
theorem isAllBlank_payload {route : Route} (h : decode output = .ok route) :
    Text.isAllBlank route.payload = false := by
  rcases decode_cases output with hEmpty | ⟨hSome, hProse⟩ | ⟨json, hJson⟩
  · rw [hEmpty] at h
    cases h
  · rw [hProse] at h
    cases h
    rw [payload, ← Bool.not_eq_true, Text.isAllBlank_trim_iff]
    exact hSome
  · rw [hJson] at h
    obtain ⟨c, -, hRoute⟩ := ofJson_eq_ok_iff.mp h
    rcases Choice.route?_eq_some_iff.mp hRoute with ⟨tool, hTool, rfl⟩ | ⟨prompt, hPrompt, rfl⟩
    · exact hTool.2
    · exact hPrompt.2.2

/-! ## The law -/

open Activity (AnsweredBy Exchange Reaches Runs Surroundings)

/-- Every answer of a routing model is classified by its text without the blanks around it: it is
malformed, the reply, or what the JSON in it says.  A route always comes with a text that is not
blank.  What is malformed here is a malformed answer for the executor, and with a malformed answer
there is no other routing call, nor any call at all, whatever was attempted before and however many
retries are left: the task comes to its end and has failed. -/
theorem answers_classified (output : String) :
    (Text.trim output = "" → ∃ text, decode output = .error (.malformedResponse text)) ∧
      (Text.trim output ≠ "" → ¬ LooksLikeJson (Text.trim output) →
        decode output = .ok (.handleDirect (Text.trim output))) ∧
      (LooksLikeJson (Text.trim output) → ∃ json,
        Json.embedded? (Text.trim output) = some json ∧ Says json (decode output)) ∧
      (∀ route, decode output = .ok route → Text.isAllBlank route.payload = false) ∧
      (∀ error, decode output = .error error → ∃ text, error = .malformedResponse text ∧
        ∀ (x : Task.Executor) (client instructions request : String),
          x.router = .planner client instructions →
            x.MalformedAnswer request ⟨.ask client [.system instructions, .user request]
              (some (x.recovery.policy .model).limit), .value output⟩ text) ∧
      ∀ (x : Task.Executor) (trace request text : String) (before : List Exchange) (e : Exchange)
        (left : Activity Task.Context), x.MalformedAnswer request e text →
          Reaches (x.execute trace request) (before ++ [e]) left →
            (∀ s : Surroundings, ∃ after c, Runs left after c ∧
              AnsweredBy s (before ++ [e]) after) ∧
            ∀ after c, Runs left after c → (∀ f ∈ after, ¬ f.request.IsCalling) ∧
              c.state = .failed ∧ c.reply = none ∧
              ∃ message, c.failure = some ⟨.malformedResponse, message⟩ := by
  refine ⟨fun h => ⟨_, decode_of_blank h⟩, decode_of_prose, ?_, fun _ => isAllBlank_payload, ?_, ?_⟩
  · intro h
    obtain ⟨json, hJson⟩ := h.exists_embedded
    refine ⟨json, hJson, ?_⟩
    rw [decode_of_looksLikeJson h hJson]
    exact says_ofJson json
  · intro error hError
    obtain ⟨text, rfl⟩ := exists_of_decode_error hError
    refine ⟨text, rfl, ?_⟩
    intro x client instructions request hRouter
    have hRun := Task.Executor.runs_routeOnce_of_planner hRouter request (.value output)
    rw [Task.routeAnswer, hError] at hRun
    exact hRun
  · intro x trace request text before e left hMalformed hLeft
    obtain ⟨hEnds, hFails⟩ := hMalformed.task_fails hLeft
    refine ⟨hEnds, fun after c hAfter => ?_⟩
    obtain ⟨hNone, hState, hReply, hFailure⟩ := hFails after c hAfter
    exact ⟨hNone, hState, hReply, _, hFailure⟩

/-- An executor that asks a model for its routes, again up to two times. -/
def askingModel : Task.Executor where
  router := .planner "llm" ""
  delegate := "delegate"
  registry := []
  governance := .byMode
  recovery := .make 100 400 ⟨30000, 0⟩ ⟨5000, 2⟩

/-- The model does not answer in time, and then its answer is half an object. -/
def halfAnswered : List Exchange :=
  [⟨.startMonitor, (0 : Nat)⟩,
    ⟨.ask "llm" [.system "", .user "hello"] (some 5000), Outcome.overdue⟩, ⟨.pause 100, ()⟩,
    ⟨.ask "llm" [.system "", .user "hello"] (some 5000), Outcome.value "\x7b"⟩]

theorem decode_half :
    decode "\x7b" = .error (.malformedResponse "EOF while parsing an object: \x7b") := rfl

theorem runs_work_half : Runs (askingModel.work "hello" .start) halfAnswered.tail
    (.start, .failed (.ofError (.malformedResponse "EOF while parsing an object: \x7b"))) := by
  unfold Task.Executor.work
  rw [Task.retry, Task.retryFrom_eq]
  refine .request _ (.request _ ?_)
  rw [Task.retryFrom_eq]
  exact .request _ (.done _)

/-- The law at blanks, at prose with braces, at half an object, and at a run in which the model
could have been asked once more. -/
theorem half_answer_fails_task :
    (∃ text, decode " \n" = .error (.malformedResponse text)) ∧
      decode " use \x7bx\x7d " = .ok (.handleDirect "use \x7bx\x7d") ∧
      (∃ json, Json.embedded? "\x7b" = some json ∧ Says json (decode "\x7b")) ∧
      ∃ left, Reaches (askingModel.execute "trace" "hello") halfAnswered left ∧
        ∀ after c, Runs left after c → (∀ f ∈ after, ¬ f.request.IsCalling) ∧
          c.state = .failed ∧ c.reply = none ∧
          ∃ message, c.failure = some ⟨.malformedResponse, message⟩ := by
  obtain ⟨-, -, hSays, -, hError, hFails⟩ := answers_classified "\x7b"
  obtain ⟨text, -, hMalformed⟩ := hError _ decode_half
  have hRun := Task.Executor.runs_execute_of_runs_work runs_work_half "trace" (0 : Nat) default
    default
  have hAll : Reaches (askingModel.execute "trace" "hello") (halfAnswered ++ _) _ :=
    Activity.reaches_done_iff.mpr hRun
  obtain ⟨left, hLeft, -⟩ := Activity.reaches_append_iff.mp hAll
  refine ⟨(answers_classified " \n").1 (by decide),
    (answers_classified " use \x7bx\x7d ").2.1 (by decide) (by decide), hSays (by decide), left,
    hLeft, ?_⟩
  exact (hFails askingModel "trace" "hello" text (halfAnswered.take 3) _ left
    (hMalformed askingModel _ _ "hello" rfl) hLeft).2

end SteadyTask.Route
