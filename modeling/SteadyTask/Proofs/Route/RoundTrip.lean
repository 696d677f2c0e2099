import Mathlib.Data.List.Permutation
import SteadyTask.Proofs.Json.CrossedRecords
import SteadyTask.Proofs.Json.Records
import SteadyTask.Route.Decode
import SteadyTask.Simulation.Run
import SteadyTask.Task.Execute

/-!
# Routes read back

What a route is encoded to is decoded to that route exactly if nothing in it mentions a fence.
Quotes, braces, line breaks and single backticks do no harm, since the whole answer starts with a
brace and is taken from there to its last brace.  A fence that names JSON does harm wherever it
stands, also inside a quoted text: the answer is then cut after the fence, and what is read from
there has no backtick in it, so it is never the route that was encoded.

What such an answer is decoded to instead is not settled here; it need not be a failure.
-/

namespace SteadyTask.Route

open Json (openFence Storable)

/-! ## The JSON of an answer in compact form -/

/-- An object in compact form is taken for JSON. -/
theorem decode_compact_obj (fields : List (String × Json.Value)) :
    decode (Json.compact (.obj fields)) =
      (Json.embeddedChars? (Json.compactChars (.obj fields))).elim
        (.ok (.handleDirect (Json.compact (.obj fields)))) fun json =>
          ofJson (String.ofList json) := by
  have hJson : isJson (Json.compactChars (.obj fields)) = true := by
    rw [isJson, Json.compactChars, List.head?_cons]
    simp
  have hSome : ¬ (Json.compactChars (.obj fields)).isEmpty = true := by
    rw [Json.compactChars]
    exact Bool.false_ne_true
  rw [decode, Json.compact, String.toList_ofList, Json.trimChars_compactChars_obj]
  refine (if_neg hSome).trans ((if_pos hJson).trans ?_)
  cases Json.embeddedChars? (Json.compactChars (.obj fields)) with
  | some json => rfl
  | none => rfl

/-- Without a fence the whole answer is the JSON. -/
theorem decode_of_no_fence {fields : List (String × Json.Value)}
    (h : ¬ openFence <:+: Json.compactChars (.obj fields)) :
    decode (Json.compact (.obj fields)) = ofJson (Json.compact (.obj fields)) := by
  rw [decode_compact_obj, Json.embeddedChars?_compactChars_obj h]
  rfl

/-! ## Reading a choice -/

section Fields

open Json.Reader

variable {depth : Nat} {seen : List String} {c : Choice}

theorem namedField_tool (hNew : "tool" ∉ seen) (tool : String) (rest : List Char) :
    namedField Choice.shape depth "tool" (seen, c)
        (':' :: (Json.compactChars (.str tool) ++ rest)) =
      .ok (("tool" :: seen, { c with tool := some tool }), rest) := by
  refine namedField_of_read rfl hNew ?_
  exact bind_of_ok (optional_str_ofText? (some tool) rest)

theorem namedField_args (hNew : "args" ∉ seen) {args : Json.Value} (hArgs : Storable depth args)
    (hNull : args ≠ .null) {rest : List Char} (hRest : Json.EndsNumber rest) :
    namedField Choice.shape depth "args" (seen, c)
        (':' :: (Json.compactChars args ++ rest)) =
      .ok (("args" :: seen, { c with args := some args }), rest) := by
  refine namedField_of_read rfl hNew ?_
  exact bind_of_ok (optional_value_compactChars hArgs hNull hRest)

theorem namedField_delegate (hNew : "delegate" ∉ seen) (prompt : String) (rest : List Char) :
    namedField Choice.shape depth "delegate" (seen, c)
        (':' :: (Json.compactChars (.str prompt) ++ rest)) =
      .ok (("delegate" :: seen, { c with delegate := some prompt }), rest) := by
  refine namedField_of_read rfl hNew ?_
  exact bind_of_ok (optional_str_ofText? (some prompt) rest)

theorem parseRecord_toolCall {tool : String} {args : Json.Value}
    (hArgs : Storable (Json.maxDepth - 1) args) (hNull : args ≠ .null)
    {fields : List (String × Json.Value)}
    (hFields : fields.Perm [("tool", .str tool), ("args", args)]) :
    Json.parseRecord Choice.shape (Json.compact (.obj fields)) =
      .ok ⟨some tool, some args, none⟩ := by
  -- the two fields can come in either order
  rcases List.perm_pair.mp hFields with rfl | rfl
  · have hRead : ReadsFields (namedField Choice.shape (Json.maxDepth - 1)) ([], Choice.shape.start)
        [("tool", .str tool), ("args", args)] (["args", "tool"], ⟨some tool, some args, none⟩) :=
      .cons (fun rest _ => namedField_tool List.not_mem_nil tool rest)
        (.cons (fun _ hEnd => namedField_args (by decide) hArgs hNull hEnd) .nil)
    exact Json.parseRecord_compact hRead rfl
  · have hRead : ReadsFields (namedField Choice.shape (Json.maxDepth - 1)) ([], Choice.shape.start)
        [("args", args), ("tool", .str tool)] (["tool", "args"], ⟨some tool, some args, none⟩) :=
      .cons (fun _ hEnd => namedField_args List.not_mem_nil hArgs hNull hEnd)
        (.cons (fun rest _ => namedField_tool (by decide) tool rest) .nil)
    exact Json.parseRecord_compact hRead rfl

theorem parseRecord_delegate (prompt : String) :
    Json.parseRecord Choice.shape (Json.compact (.obj [("delegate", .str prompt)])) =
      .ok ⟨none, none, some prompt⟩ := by
  have hRead : ReadsFields (namedField Choice.shape (Json.maxDepth - 1)) ([], Choice.shape.start)
      [("delegate", .str prompt)] (["delegate"], ⟨none, none, some prompt⟩) :=
    .cons (fun rest _ => namedField_delegate List.not_mem_nil prompt rest) .nil
  exact Json.parseRecord_compact hRead rfl

end Fields

theorem ofJson_of_choice {json : String} {choice : Choice} {route : Route}
    (h : Json.parseRecord Choice.shape json = .ok choice) (hRoute : choice.route? = some route) :
    ofJson json = .ok route := by
  rw [ofJson, h]
  simp only [hRoute]

theorem route?_toolCall {tool : String} (hTool : Text.isAllBlank tool = false)
    (args : Json.Value) :
    Choice.route? ⟨some tool, some args, none⟩ = some (.toolCall tool args) := by
  have hKept : (some tool).filter (fun t => !Text.isAllBlank t) = some tool := by
    simp [Option.filter, hTool]
  simp only [Choice.route?, hKept, Option.getD_some]

theorem route?_delegate {prompt : String} (hPrompt : Text.isAllBlank prompt = false) :
    Choice.route? ⟨none, none, some prompt⟩ = some (.modelDelegate prompt) := by
  simp [Choice.route?, hPrompt]

/-! ## After a fence -/

/-- Nothing in a choice has a backtick. -/
structure Choice.Unticked (c : Choice) : Prop where
  tool : ∀ t ∈ c.tool, Json.Unticked t
  args : ∀ v ∈ c.args, Json.Reader.UntickedValue v
  delegate : ∀ p ∈ c.delegate, Json.Unticked p

/-- A choice that is read from inside quotes has no backtick. -/
theorem meets_choice (depth : Nat) :
    Json.Reader.Meets Json.Reader.Within (Json.Reader.record Choice.shape depth)
      fun c rest => c.Unticked ∧ Json.Reader.Within rest := by
  have hStart : Choice.Unticked ⟨none, none, none⟩ := ⟨nofun, nofun, nofun⟩
  refine Json.Reader.meets_record Choice.Unticked ?_ hStart depth
  have hText := Json.Reader.meets_optional Json.Reader.meets_str
  have hValue := fun depth => Json.Reader.meets_optional (Json.Reader.meets_value depth)
  intro field hField depth c hc
  simp only [Choice.shape, List.mem_cons, List.not_mem_nil, or_false] at hField
  rcases hField with rfl | rfl | rfl
  · exact hText.bind fun t => .of_and fun ht => .pure fun _ h => ⟨⟨ht, hc.args, hc.delegate⟩, h⟩
  · exact (hValue depth).bind fun v => .of_and fun hv => .pure fun _ h =>
      ⟨⟨hc.tool, hv, hc.delegate⟩, h⟩
  · exact hText.bind fun p => .of_and fun hp => .pure fun _ h => ⟨⟨hc.tool, hc.args, hp⟩, h⟩

/-- The route has no backtick in what a model has chosen. -/
def Unticked : Route → Prop
  | .handleDirect _ => True
  | .toolCall tool args => Json.Unticked tool ∧ Json.Reader.UntickedValue args
  | .modelDelegate prompt => Json.Unticked prompt

theorem Choice.Unticked.route {c : Choice} (h : c.Unticked) {route : Route}
    (hRoute : c.route? = some route) : route.Unticked := by
  unfold Choice.route? at hRoute
  cases hTool : c.tool.filter (fun t => !Text.isAllBlank t) with
  | some tool =>
      simp only [hTool] at hRoute
      cases hRoute
      refine ⟨h.tool tool (Option.filter_eq_some_iff.mp hTool).1, ?_⟩
      cases hArgs : c.args with
      | none => exact Json.Reader.untickedValue_obj (List.forall_mem_nil _)
      | some v => exact h.args v hArgs
  | none =>
      cases hDelegate : c.delegate with
      | none =>
          simp only [hTool, hDelegate] at hRoute
          cases hRoute
      | some prompt =>
          simp only [hTool, hDelegate] at hRoute
          split at hRoute
          · cases hRoute
          · cases hRoute
            exact h.delegate prompt hDelegate

theorem unticked_of_ofJson {json : List Char} (h : Json.Reader.Within json) {route : Route}
    (hRoute : ofJson (String.ofList json) = .ok route) : route.Unticked := by
  unfold ofJson at hRoute
  split at hRoute
  · cases hRoute
  · next choice hParse =>
      split at hRoute
      · next chosen hChosen =>
          cases hRoute
          obtain ⟨left, hRead, -⟩ := Json.exists_of_run_ok hParse
          rw [String.toList_ofList] at hRead
          exact ((meets_choice Json.maxDepth) json choice left h hRead).1.route hChosen
      · cases hRoute

/-- What an object with a fence in it is decoded to has no backtick in it. -/
theorem unticked_of_decode {fields : List (String × Json.Value)}
    (hFence : openFence <:+: Json.compactChars (.obj fields))
    (hFields : ∀ f ∈ fields, Json.Side.outside.after (Json.compactChars f.2) = some .outside)
    {route : Route} (hRoute : decode (Json.compact (.obj fields)) = .ok route) :
    route.Unticked := by
  -- the JSON is cut out from inside quotes, so a reader of it meets no backtick
  have hPasses : Json.Side.outside.Passes (Json.compactChars (.obj fields)) := by
    rw [Json.Side.Passes, Json.Side.after_obj hFields]
    rfl
  rw [decode_compact_obj] at hRoute
  cases hJson : Json.embeddedChars? (Json.compactChars (.obj fields)) with
  | some json =>
      rw [hJson] at hRoute
      exact unticked_of_ofJson (hPasses.embeddedChars hFence hJson) hRoute
  | none =>
      rw [hJson] at hRoute
      cases hRoute
      trivial

/-! ## The exact condition -/

/-- An object is decoded to its route exactly if it mentions no fence. -/
theorem decode_iff_of_fields {fields : List (String × Json.Value)} {depth : Nat} {route : Route}
    (hFields : ∀ f ∈ fields, Storable depth f.2)
    (hRead : ofJson (Json.compact (.obj fields)) = .ok route)
    (hTicked : (Json.Value.obj fields).Mentions openFence → ¬ route.Unticked) :
    decode (Json.compact (.obj fields)) = .ok route ↔
      ¬ (Json.Value.obj fields).Mentions openFence := by
  have hInfix := Json.fenceLike_openFence.infix_obj_iff fun f hf =>
    Json.fenceLike_openFence.infix_compactChars_iff (hFields f hf)
  -- with a fence the answer is cut, and the route that holds the fence cannot come out of the cut
  constructor
  · intro hDecode hMentions
    exact hTicked hMentions (unticked_of_decode (hInfix.mpr hMentions)
      (fun f hf => Json.Side.after_compactChars (hFields f hf)) hDecode)
  · intro hMentions
    rw [decode_of_no_fence fun hFence => hMentions (hInfix.mp hFence)]
    exact hRead

theorem backtick_infix_openFence : [Json.backtick] <:+: openFence := by
  decide

theorem decode_toolCall_iff {tool : String} {args : Json.Value}
    {fields : List (String × Json.Value)} (hTool : Text.isAllBlank tool = false)
    (hNull : args ≠ .null) (hArgs : Storable (Json.maxDepth - 1) args)
    (hFields : fields.Perm [("tool", .str tool), ("args", args)]) :
    decode (Json.compact (.obj fields)) = .ok (.toolCall tool args) ↔
      ¬ openFence <:+: tool.toList ∧ ¬ args.Mentions openFence := by
  have hStorable : ∀ f ∈ fields, Storable (Json.maxDepth - 1) f.2 := by
    intro f hf
    rcases List.mem_pair.mp (hFields.mem_iff.mp hf) with rfl | rfl
    · exact .str tool
    · exact hArgs
  have hMentions : (Json.Value.obj fields).Mentions openFence ↔
      openFence <:+: tool.toList ∨ args.Mentions openFence := by
    have hToolName : ¬ openFence <:+: "tool".toList := by decide
    have hArgsName : ¬ openFence <:+: "args".toList := by decide
    rw [Json.Value.mentions_obj]
    simp only [hFields.mem_iff, List.mem_cons, List.not_mem_nil, or_false, exists_eq_or_imp,
      exists_eq_left, hToolName, hArgsName, false_or, Json.Value.mentions_str]
  have hRead : ofJson (Json.compact (.obj fields)) = .ok (.toolCall tool args) :=
    ofJson_of_choice (parseRecord_toolCall hArgs hNull hFields) (route?_toolCall hTool args)
  rw [decode_iff_of_fields hStorable hRead, hMentions, not_or]
  rw [hMentions]
  rintro (hFence | hFence) ⟨hText, hValue⟩
  · exact hText (backtick_infix_openFence.trans hFence)
  · exact hValue (hFence.of_infix backtick_infix_openFence)

theorem decode_delegate_iff {prompt : String} (hPrompt : Text.isAllBlank prompt = false) :
    decode (encodeDelegate prompt) = .ok (.modelDelegate prompt) ↔
      ¬ openFence <:+: prompt.toList := by
  have hStorable : ∀ f ∈ [("delegate", Json.Value.str prompt)], Storable 0 f.2 :=
    List.forall_mem_singleton.mpr (.str prompt)
  have hMentions : (Json.Value.obj [("delegate", .str prompt)]).Mentions openFence ↔
      openFence <:+: prompt.toList := by
    have hName : ¬ openFence <:+: "delegate".toList := by decide
    rw [Json.Value.mentions_obj]
    simp only [List.mem_singleton, exists_eq_left, hName, false_or, Json.Value.mentions_str]
  have hRead : ofJson (Json.compact (.obj [("delegate", .str prompt)])) =
      .ok (.modelDelegate prompt) :=
    ofJson_of_choice (parseRecord_delegate prompt) (route?_delegate hPrompt)
  change decode (Json.compact (.obj [("delegate", .str prompt)])) = _ ↔ _
  rw [decode_iff_of_fields hStorable hRead, hMentions]
  rw [hMentions]
  exact fun hFence hText => hText (backtick_infix_openFence.trans hFence)

/-- The fields of a tool call are sorted by name. -/
theorem encodeToolCall_eq (tool : String) (args : Json.Value) :
    encodeToolCall tool args = Json.compact (.obj [("args", args), ("tool", .str tool)]) := by
  have hNe : "args" ≠ "tool" := by decide
  have hLess : "args" < "tool" := by decide
  rw [encodeToolCall, Json.Value.ofFields, List.foldl_cons, List.foldl_cons, List.foldl_nil,
    Json.setField, Json.setField, if_neg hNe, if_pos hLess]

/-! ## The planner over an echoing model -/

open Simulation

/-- A world answers a question to an echoing model at once, and the activity returns. -/
theorem run_ask_echoing {β : Type} {w : World} {client : String} {c : Llm.Client}
    (hClient : w.clients.lookup client = some c) (hEchoing : c.behaviour = .echoing)
    (messages : List Llm.Message) (limit : Option Millis)
    (f : Outcome CallError String → β) :
    (w.run ((Activity.perform (.ask client messages limit)).bind fun o => .done (f o))).2 =
      some (f (.value (Llm.echoCall messages))) := by
  -- one step to ask, with the answer at once, and one to return
  obtain ⟨steps, hSteps⟩ : ∃ steps, World.manySteps = steps + 3 :=
    Nat.exists_eq_add_of_le' (by decide)
  obtain ⟨asked, hAsk⟩ : ∃ asked,
      World.askClient { w with mainWoken := false } client messages limit =
        (asked, 0, .value (Llm.echoCall messages)) := by
    simp [World.askClient, hClient, Llm.Client.next, hEchoing, World.stepOutcome]
  have hBegin : ({ w with mainWoken := false } : World).resume .main
      (.ready ((Activity.perform (.ask client messages limit)).bind fun o => .done (f o))) =
        (asked, .ready (.done (f (.value (Llm.echoCall messages))))) := by
    change World.begin _ _ (.ask client messages limit) (fun o => Activity.done (f o)) = _
    simp only [World.begin, hAsk, World.sleepThen, if_true]
  rw [World.run, hSteps, World.runWithin, hBegin]
  rfl

/-- The echoing model answers with a call of the echo tool on the request. -/
theorem echoCall_eq (instructions request : String) :
    Llm.echoCall [.system instructions, .user request] =
      encodeToolCall "echo" (.obj [("text", .str ("Echo from Mock: " ++ request))]) :=
  rfl

theorem routeOnce_echoing {x : Task.Executor} {client instructions : String}
    (hRouter : x.router = .planner client instructions) {w : World} {c : Llm.Client}
    (hClient : w.clients.lookup client = some c) (hEchoing : c.behaviour = .echoing)
    (request : String) :
    (w.run (x.routeOnce request)).2 = some (Task.routeAnswer (.value
      (encodeToolCall "echo" (.obj [("text", .str ("Echo from Mock: " ++ request))])))) := by
  have hRun := run_ask_echoing hClient hEchoing [.system instructions, .user request]
    (some (x.recovery.policy .model).limit) Task.routeAnswer
  rw [echoCall_eq] at hRun
  rw [Task.Executor.routeOnce, hRouter]
  exact hRun

theorem routeAnswer_value_iff {output : String} {route : Route} :
    Task.routeAnswer (.value output) = .value route ↔ decode output = .ok route := by
  rw [Task.routeAnswer]
  cases hDecode : decode output with
  | ok other => simp
  | error e => simp

/-- A planner over an echoing model turns a request into the echo tool's call on it exactly if
the request has no fence in it. -/
theorem routeOnce_echoing_iff {x : Task.Executor} {client instructions : String}
    (hRouter : x.router = .planner client instructions) {w : World} {c : Llm.Client}
    (hClient : w.clients.lookup client = some c) (hEchoing : c.behaviour = .echoing)
    (request : String) :
    (w.run (x.routeOnce request)).2 = some (.value (.toolCall "echo"
        (.obj [("text", .str ("Echo from Mock: " ++ request))]))) ↔
      ¬ openFence <:+: request.toList := by
  have hArgs : Storable (Json.maxDepth - 1)
      (.obj [("text", .str ("Echo from Mock: " ++ request))]) :=
    .obj (List.pairwise_singleton _ _) (List.forall_mem_singleton.mpr (.str _))
  have hNull : Json.Value.obj [("text", .str ("Echo from Mock: " ++ request))] ≠ .null := nofun
  have hFence : openFence <:+: ("Echo from Mock: " ++ request).toList ↔
      openFence <:+: request.toList := by
    rw [String.toList_append]
    exact Json.fenceLike_openFence.infix_append_iff (by decide)
  have hTool : ¬ openFence <:+: "echo".toList := by decide
  have hName : ¬ openFence <:+: "text".toList := by decide
  have hMentions : (Json.Value.obj [("text", .str ("Echo from Mock: " ++ request))]).Mentions
      openFence ↔ openFence <:+: request.toList := by
    rw [Json.Value.mentions_obj]
    simp only [List.mem_singleton, exists_eq_left, hName, false_or, Json.Value.mentions_str, hFence]
  rw [routeOnce_echoing hRouter hClient hEchoing, Option.some_inj, routeAnswer_value_iff]
  rw [encodeToolCall_eq, decode_toolCall_iff (by decide) hNull hArgs (List.Perm.swap _ _ []),
    hMentions]
  exact and_iff_right hTool

/-- What is encoded is decoded to the same route exactly if nothing in the route mentions a fence,
whatever else its texts hold; and so a planner over an echoing model turns a request into the echo
tool's call on it exactly if the request has no fence in it. -/
theorem encoded_routes_read_back_iff {tool : String} {args : Json.Value}
    {fields : List (String × Json.Value)} (hTool : Text.isAllBlank tool = false)
    (hNull : args ≠ .null) (hArgs : Storable (Json.maxDepth - 1) args)
    (hFields : fields.Perm [("tool", .str tool), ("args", args)])
    {prompt : String} (hPrompt : Text.isAllBlank prompt = false)
    {x : Task.Executor} {client instructions : String}
    (hRouter : x.router = .planner client instructions) {w : World} {c : Llm.Client}
    (hClient : w.clients.lookup client = some c) (hEchoing : c.behaviour = .echoing)
    (request : String) :
    (decode (Json.compact (.obj fields)) = .ok (.toolCall tool args) ↔
        ¬ openFence <:+: tool.toList ∧ ¬ args.Mentions openFence) ∧
      (decode (encodeDelegate prompt) = .ok (.modelDelegate prompt) ↔
        ¬ openFence <:+: prompt.toList) ∧
      ((w.run (x.routeOnce request)).2 = some (.value (.toolCall "echo"
          (.obj [("text", .str ("Echo from Mock: " ++ request))]))) ↔
        ¬ openFence <:+: request.toList) :=
  ⟨decode_toolCall_iff hTool hNull hArgs hFields, decode_delegate_iff hPrompt,
    routeOnce_echoing_iff hRouter hClient hEchoing request⟩

/-- The law at a call of the echo tool, a delegate and an echoing planner. -/
theorem echo_routes_read_back_iff :
    (decode (Json.compact (.obj [("tool", .str "echo"), ("args", .arr [])])) =
        .ok (.toolCall "echo" (.arr [])) ↔
          ¬ openFence <:+: "echo".toList ∧ ¬ (Json.Value.arr []).Mentions openFence) ∧
      (decode (encodeDelegate "think") = .ok (.modelDelegate "think") ↔
        ¬ openFence <:+: "think".toList) ∧
      ((({ World.start .calm 0 0 default default default with
            clients := [("llm", .echoing)] } : World).run
          (Task.Executor.routeOnce ⟨.planner "llm" instructions, "llm", [], .byMode,
            .make 0 0 ⟨0, 0⟩ ⟨0, 0⟩⟩ "hello")).2 =
          some (.value (.toolCall "echo" (.obj [("text", .str ("Echo from Mock: " ++ "hello"))]))) ↔
        ¬ openFence <:+: "hello".toList) := by
  have hTool : Text.isAllBlank "echo" = false := by decide
  have hPrompt : Text.isAllBlank "think" = false := by decide
  have hNull : Json.Value.arr [] ≠ .null := nofun
  have hArgs : Storable (Json.maxDepth - 1) (.arr []) := .arr (List.forall_mem_nil _)
  have hClient : ({ World.start .calm 0 0 default default default with
      clients := [("llm", .echoing)] } : World).clients.lookup "llm" = some .echoing := rfl
  exact encoded_routes_read_back_iff hTool hNull hArgs (List.Perm.refl _) hPrompt rfl hClient rfl
    "hello"

/-- A call of the echo tool on a text with a fence in it is not read back. -/
theorem decode_echo_fence_ne :
    decode (encodeToolCall "echo" (.obj [("text", .str "```json")])) ≠
      .ok (.toolCall "echo" (.obj [("text", .str "```json")])) := by
  have hArgs : Storable (Json.maxDepth - 1) (.obj [("text", .str "```json")]) :=
    .obj (List.pairwise_singleton _ _) (List.forall_mem_singleton.mpr (.str _))
  have hNull : Json.Value.obj [("text", .str "```json")] ≠ .null := nofun
  have hMentions : (Json.Value.obj [("text", .str "```json")]).Mentions openFence :=
    .field List.mem_cons_self (.str List.infix_rfl)
  rw [encodeToolCall_eq]
  intro hDecode
  have hSwap := List.Perm.swap ("tool", Json.Value.str "echo")
    ("args", .obj [("text", .str "```json")]) []
  exact ((decode_toolCall_iff (by decide) hNull hArgs hSwap).mp hDecode).2 hMentions

end SteadyTask.Route
