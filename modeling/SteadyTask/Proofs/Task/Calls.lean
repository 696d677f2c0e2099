import SteadyTask.Proofs.Activity.Marked
import SteadyTask.Proofs.Task.Panics

/-!
# Where calls of a task begin

Executing a task, with every attempt of a tool and every attempt of the delegate marked.  Without
the marks this is the execution itself.  A task asks for the mode before any of its calls begins,
the governance permits the operation in the mode that was answered, the first attempt begins at
that moment, and every later attempt begins when a pause is over; the mode is not asked for again.
-/

namespace SteadyTask

open Activity (Exchange)

/-- What is requested while a route is found or a call is made: anything but the mode and what opens
or closes a task. -/
def Request.IsCalling : Request → Prop
  | .ask _ _ _ => True
  | .consult _ => True
  | .useTool _ _ _ => True
  | .read _ _ => True
  | .now => True
  | .pause _ => True
  | _ => False

theorem Request.IsCalling.ne_mode {r : Request} (h : r.IsCalling) : r ≠ .mode := by
  rintro rfl
  exact h

/-- What is requested while a tool does its work. -/
def Request.IsOfTool : Request → Prop
  | .useTool _ _ _ => True
  | .read _ _ => True
  | .now => True
  | _ => False

theorem Request.isCalling_of_isOfTool (r : Request) (h : r.IsOfTool) : r.IsCalling := by
  cases r <;> trivial

/-! ## What is requested -/

theorem Tool.only_report (several : Bool) (deadline : Option Millis) (groups : List Sensor.Group)
    (fields : List (String × Json.Value)) :
    (report several deadline groups fields).Only Request.IsOfTool := by
  induction groups generalizing fields with
  | nil => exact trivial
  | cons g groups ih =>
      refine Activity.Only.bind (Activity.only_perform trivial) ?_
      intro outcome
      cases reportGroup several g fields outcome with
      | value fields => exact ih fields
      | error e => exact trivial
      | overdue => exact trivial
      | panicked p => exact trivial

theorem Tool.only_work (registry : Registry) (name : String) (args : Json.Value) (limit : Millis) :
    (work registry name args limit).Only Request.IsOfTool := by
  unfold work
  split
  · exact trivial
  · split
    · exact trivial
    · unfold reportMetrics
      split
      · exact trivial
      · exact Activity.Only.bind (Activity.only_perform trivial)
          (fun _ => only_report _ _ _ _)
    · exact Activity.only_perform trivial

namespace Task

theorem only_retryFrom {α : Type} {P : Request → Prop} {r : Recovery} {kind : CallKind}
    {call : Activity (Outcome CallError α)} (hCall : call.Only P)
    (hPause : ∀ delay, P (.pause delay)) (attempt : Nat) :
    (retryFrom r kind call attempt).Only P := by
  -- by how many retries are left
  induction hLeft : (r.policy kind).maxRetries - attempt using Nat.strong_induction_on
    generalizing attempt with
  | _ left ih =>
      rw [retryFrom_eq]
      refine hCall.bind ?_
      intro outcome
      cases hAfter : afterAttempt r kind attempt outcome with
      | finish ending => exact trivial
      | retryAfter delay =>
          have hMore := lt_maxRetries_of_afterAttempt hAfter
          exact ⟨hPause delay, fun _ => ih _ (by omega) (attempt + 1) rfl⟩

namespace Executor

theorem only_routeOnce (x : Executor) (request : String) :
    (x.routeOnce request).Only Request.IsCalling := by
  unfold routeOnce
  split
  · exact Activity.Only.bind (Activity.only_perform trivial) (fun _ => trivial)
  · exact Activity.only_perform trivial

theorem only_callToolOnce_isOfTool (x : Executor) (tool : String) (args : Json.Value) :
    (x.callToolOnce tool args).Only Request.IsOfTool := by
  refine Activity.Only.bind ?_ (fun _ => trivial)
  exact (Tool.only_work x.registry tool args _).bind (fun _ => trivial)

theorem only_callToolOnce (x : Executor) (tool : String) (args : Json.Value) :
    (x.callToolOnce tool args).Only Request.IsCalling :=
  (x.only_callToolOnce_isOfTool tool args).mono Request.isCalling_of_isOfTool

theorem only_delegateOnce (x : Executor) (prompt : String) :
    (x.delegateOnce prompt).Only Request.IsCalling :=
  Activity.only_perform trivial

/-- Guarded work asks for the mode besides what it requests itself. -/
theorem only_ifPermitted {P : Request → Prop} (hMode : P .mode) {x : Executor}
    {operation : Mode.Operation} {work : Activity (Ending String)} (hWork : work.Only P) :
    (x.ifPermitted operation work).Only P := by
  refine Activity.Only.bind (Activity.only_perform hMode) fun mode => ?_
  cases x.governance.rule mode operation with
  | error p => exact trivial
  | ok permitted =>
      cases permitted with
      | true => exact hWork
      | false => exact trivial

/-! ## The marked execution -/

end Executor

/-- A call with retries in which every attempt is marked. -/
def markedRetryFrom {α : Type} (r : Recovery) (kind : CallKind) (operation : Mode.Operation)
    (call : Activity (Outcome CallError α)) (attempt : Nat) : Marked (Ending α) :=
  .begin operation ((Marked.plain call).bind fun outcome =>
    match h : afterAttempt r kind attempt outcome with
    | .finish ending => .done ending
    | .retryAfter delay =>
      .request (.pause delay) fun _ => markedRetryFrom r kind operation call (attempt + 1))
termination_by (r.policy kind).maxRetries - attempt
decreasing_by
  have := lt_maxRetries_of_afterAttempt h
  omega

namespace Executor

/-- Guarded work with marks. -/
def markedIfPermitted (x : Executor) (operation : Mode.Operation) (work : Marked (Ending String)) :
    Marked (Ending String) :=
  .request .mode fun mode =>
    match x.governance.rule mode operation with
    | .ok true => work
    | .ok false => .done (.failed (denied operation mode))
    | .error p => .done (.panicked p)

/-- Carries out a route, with every attempt of a tool or of the delegate marked. -/
def markedCarryOut (x : Executor) : Route → Marked (Ending String)
  | .handleDirect reply => .done (.value reply)
  | .toolCall tool args =>
    x.markedIfPermitted .toolCall
      (markedRetryFrom x.recovery .tool .toolCall (x.callToolOnce tool args) 0)
  | .modelDelegate prompt =>
    x.markedIfPermitted .modelDelegate
      (markedRetryFrom x.recovery .model .modelDelegate (x.delegateOnce prompt) 0)

/-- The work of a task with marks. -/
def markedWork (x : Executor) (request : String) (c : Context) :
    Marked (Context × Ending String) :=
  (Marked.plain (retry x.recovery .model (x.routeOnce request))).bind fun routed =>
    match routed with
    | .failed f => .done (c, .failed f)
    | .panicked p => .done (c, .panicked p)
    | .value route =>
      (x.markedCarryOut route).bind fun ending =>
        .done ((c.advance (branchOf route).1 (branchOf route).2).1, ending)

/-- What follows the work of a task. -/
def closing (trace request : String) (monitor : Nat) (c : Context) : Activity Context := do
  let summary ← Activity.perform (.stopMonitor monitor)
  Activity.perform (.evaluate summary)
  let mode ← Activity.perform .mode
  Activity.perform (.reflect (.ofContext trace request c mode summary))
  return { c with summary := some summary }

/-- The execution of a request, with every attempt of a tool or of the delegate marked. -/
def markedExecute (x : Executor) (trace request : String) : Marked Context :=
  .request .startMonitor fun monitor =>
    (x.markedWork request Context.start).bind fun worked =>
      Marked.plain (closing trace request monitor (close worked.1 worked.2))

end Executor

/-! ## Without the marks -/

theorem markedRetryFrom_eq {α : Type} (r : Recovery) (kind : CallKind) (operation : Mode.Operation)
    (call : Activity (Outcome CallError α)) (attempt : Nat) :
    markedRetryFrom r kind operation call attempt =
      .begin operation ((Marked.plain call).bind fun outcome =>
        match afterAttempt r kind attempt outcome with
        | .finish ending => .done ending
        | .retryAfter delay => .request (.pause delay) fun _ =>
            markedRetryFrom r kind operation call (attempt + 1)) := by
  rw [markedRetryFrom]
  congr 2
  funext outcome
  split
  · next ending h => rw [h]
  · next delay h => rw [h]

@[simp]
theorem erase_markedRetryFrom {α : Type} (r : Recovery) (kind : CallKind)
    (operation : Mode.Operation) (call : Activity (Outcome CallError α)) (attempt : Nat) :
    (markedRetryFrom r kind operation call attempt).erase = retryFrom r kind call attempt := by
  -- by how many retries are left
  induction hLeft : (r.policy kind).maxRetries - attempt using Nat.strong_induction_on
    generalizing attempt with
  | _ left ih =>
      rw [markedRetryFrom_eq, retryFrom_eq, Marked.erase, Marked.erase_bind, Marked.erase_plain]
      congr 1
      funext outcome
      cases hAfter : afterAttempt r kind attempt outcome with
      | finish ending => rfl
      | retryAfter delay =>
          have hMore := lt_maxRetries_of_afterAttempt hAfter
          simp only [Marked.erase]
          congr 1
          funext _
          exact ih _ (by omega) (attempt + 1) rfl

namespace Executor

variable {x : Executor}

theorem erase_markedIfPermitted (operation : Mode.Operation) (work : Marked (Ending String)) :
    (x.markedIfPermitted operation work).erase = x.ifPermitted operation work.erase := by
  show Activity.request .mode _ = Activity.request .mode _
  congr 1
  funext mode
  simp only [Activity.bind]
  cases x.governance.rule mode operation with
  | error p => rfl
  | ok permitted => cases permitted <;> rfl

theorem erase_markedCarryOut (route : Route) :
    (x.markedCarryOut route).erase = x.carryOut route := by
  cases route with
  | handleDirect reply => rfl
  | toolCall tool args =>
      rw [markedCarryOut, erase_markedIfPermitted, erase_markedRetryFrom]
      rfl
  | modelDelegate prompt =>
      rw [markedCarryOut, erase_markedIfPermitted, erase_markedRetryFrom]
      rfl

theorem erase_markedWork (request : String) (c : Context) :
    (x.markedWork request c).erase = x.work request c := by
  rw [markedWork, Marked.erase_bind, Marked.erase_plain]
  show Activity.bind _ _ = Activity.bind _ _
  congr 1
  funext routed
  cases routed with
  | failed f => rfl
  | panicked p => rfl
  | value route =>
      simp only [Marked.erase_bind, erase_markedCarryOut]
      rfl

/-- Without its marks the marked execution is the execution. -/
theorem erase_markedExecute (trace request : String) :
    (x.markedExecute trace request).erase = x.execute trace request := by
  show Activity.request .startMonitor _ = Activity.request .startMonitor _
  congr 1
  funext monitor
  simp only [Marked.erase_bind, erase_markedWork, Marked.erase_plain]
  rfl

end Executor

/-! ## Where calls begin -/

/-- A call begins at the beginning, or where a pause is over. -/
def AfterPause (exchanges : List Exchange) : Prop :=
  exchanges = [] ∨ ∃ earlier delay, exchanges = earlier ++ [⟨.pause delay, ()⟩]

theorem begins_markedRetryFrom {α : Type} {r : Recovery} {kind : CallKind}
    {operation other : Mode.Operation} {call : Activity (Outcome CallError α)}
    (hCall : call.Only Request.IsCalling) {attempt : Nat} {exchanges : List Exchange}
    (h : Marked.Begins (markedRetryFrom r kind operation call attempt) exchanges other) :
    other = operation ∧ (∀ e ∈ exchanges, e.request.IsCalling) ∧ AfterPause exchanges := by
  -- by how many retries are left
  induction hLeft : (r.policy kind).maxRetries - attempt using Nat.strong_induction_on
    generalizing attempt exchanges with
  | _ left ih =>
      rw [markedRetryFrom_eq, Marked.begins_begin_iff] at h
      -- the attempt at hand begins here, or a later one behind its pause
      rcases h with ⟨rfl, rfl⟩ | h
      · exact ⟨rfl, fun e he => (List.not_mem_nil he).elim, .inl rfl⟩
      · obtain ⟨first, outcome, second, rfl, hFirst, hSecond⟩ := Marked.begins_plain_bind_iff.mp h
        cases hAfter : afterAttempt r kind attempt outcome with
        | finish ending =>
            simp only [hAfter] at hSecond
            exact absurd hSecond Marked.not_begins_done
        | retryAfter delay =>
            simp only [hAfter] at hSecond
            obtain ⟨⟨⟩, rest, rfl, hRest⟩ := Marked.begins_request_iff.mp hSecond
            have hMore := lt_maxRetries_of_afterAttempt hAfter
            obtain ⟨hOther, hCalling, hPause⟩ := ih _ (by omega) hRest rfl
            refine ⟨hOther, ?_, .inr ?_⟩
            · intro e he
              rcases List.mem_append.mp he with he | he
              · exact hCall.of_runs hFirst e he
              · rcases List.mem_cons.mp he with rfl | he
                · exact trivial
                · exact hCalling e he
            · rcases hPause with rfl | ⟨earlier, last, rfl⟩
              · exact ⟨first, delay, rfl⟩
              · exact ⟨first ++ ⟨.pause delay, ()⟩ :: earlier, last, by simp⟩

namespace Executor

variable {x : Executor}

/-- In guarded work a call begins only if it is permitted in the mode that was answered. -/
theorem begins_markedIfPermitted {operation other : Mode.Operation}
    {work : Marked (Ending String)} {exchanges : List Exchange}
    (h : Marked.Begins (x.markedIfPermitted operation work) exchanges other) :
    ∃ mode rest, exchanges = ⟨.mode, mode⟩ :: rest ∧
      x.governance.rule mode operation = .ok true ∧ Marked.Begins work rest other := by
  obtain ⟨mode, rest, rfl, hRest⟩ := Marked.begins_request_iff.mp h
  refine ⟨mode, rest, rfl, ?_⟩
  cases hRule : x.governance.rule mode operation with
  | error p =>
      simp only [hRule] at hRest
      exact absurd hRest Marked.not_begins_done
  | ok permitted =>
      cases permitted with
      | true =>
          simp only [hRule] at hRest
          exact ⟨rfl, hRest⟩
      | false =>
          simp only [hRule] at hRest
          exact absurd hRest Marked.not_begins_done

/-- A call begins after an opening in which the mode was not asked for, the answer of a mode in
which the operation is permitted and the first attempt began, and what came then, up to a pause. -/
structure Gated {α : Type} (x : Executor) (program : Marked α) (opening : List Exchange)
    (mode : Mode) (waits : List Exchange) (operation : Mode.Operation) : Prop where
  unasked : ∀ e ∈ opening, e.request ≠ .mode
  permitted : x.governance.rule mode operation = .ok true
  begun : Marked.Begins program (opening ++ [⟨.mode, mode⟩]) operation
  calling : ∀ e ∈ waits, e.request.IsCalling
  afterPause : AfterPause waits

theorem gated_markedIfPermitted {r : Recovery} {kind : CallKind}
    {operation other : Mode.Operation} {call : Activity (Outcome CallError String)}
    (hCall : call.Only Request.IsCalling) {exchanges : List Exchange}
    (h : Marked.Begins (x.markedIfPermitted operation (markedRetryFrom r kind operation call 0))
      exchanges other) :
    ∃ mode waits, exchanges = ⟨.mode, mode⟩ :: waits ∧
      Gated x (x.markedIfPermitted operation (markedRetryFrom r kind operation call 0)) [] mode
        waits other := by
  obtain ⟨mode, waits, rfl, hRule, hRest⟩ := begins_markedIfPermitted h
  obtain ⟨rfl, hCalling, hPause⟩ := begins_markedRetryFrom hCall hRest
  refine ⟨mode, waits, rfl, ⟨?_, hRule, ?_, hCalling, hPause⟩⟩
  · intro e he
    cases he
  · refine .request mode ?_
    simp only [hRule]
    rw [markedRetryFrom_eq]
    exact .here _ _

theorem gated_markedCarryOut {route : Route} {operation : Mode.Operation}
    {exchanges : List Exchange} (h : Marked.Begins (x.markedCarryOut route) exchanges operation) :
    ∃ mode waits, exchanges = ⟨.mode, mode⟩ :: waits ∧
      Gated x (x.markedCarryOut route) [] mode waits operation := by
  cases route with
  | handleDirect reply => exact absurd h Marked.not_begins_done
  | toolCall tool args => exact gated_markedIfPermitted (x.only_callToolOnce tool args) h
  | modelDelegate prompt => exact gated_markedIfPermitted (x.only_delegateOnce prompt) h

/-- In the work of a task a call begins only in the branch of its route. -/
theorem begins_markedWork_iff {request : String} {c : Context} {operation : Mode.Operation}
    {exchanges : List Exchange} :
    Marked.Begins (x.markedWork request c) exchanges operation ↔
      ∃ routing route branch, exchanges = routing ++ branch ∧
        Activity.Runs (retry x.recovery .model (x.routeOnce request)) routing (.value route) ∧
        Marked.Begins (x.markedCarryOut route) branch operation := by
  rw [markedWork, Marked.begins_plain_bind_iff]
  constructor
  · rintro ⟨routing, routed, branch, rfl, hRouting, hBranch⟩
    cases routed with
    | failed f => exact absurd hBranch Marked.not_begins_done
    | panicked p => exact absurd hBranch Marked.not_begins_done
    | value route =>
        refine ⟨routing, route, branch, rfl, hRouting, ?_⟩
        rcases Marked.begins_bind_iff.mp hBranch with hBegins | ⟨_, _, _, _, _, hAfter⟩
        · exact hBegins
        · exact absurd hAfter Marked.not_begins_done
  · rintro ⟨routing, route, branch, rfl, hRouting, hBranch⟩
    exact ⟨routing, .value route, branch, rfl, hRouting,
      Marked.begins_bind_iff.mpr (.inl hBranch)⟩

/-- In a task a call begins only in its work. -/
theorem begins_markedExecute_iff {trace request : String} {operation : Mode.Operation}
    {exchanges : List Exchange} :
    Marked.Begins (x.markedExecute trace request) exchanges operation ↔
      ∃ monitor working, exchanges = ⟨.startMonitor, monitor⟩ :: working ∧
        Marked.Begins (x.markedWork request Context.start) working operation := by
  rw [markedExecute, Marked.begins_request_iff]
  constructor
  · rintro ⟨monitor, working, rfl, h⟩
    rcases Marked.begins_bind_iff.mp h with hWork | ⟨_, _, _, _, _, hClosing⟩
    · exact ⟨monitor, working, rfl, hWork⟩
    · exact absurd hClosing Marked.not_begins_plain
  · rintro ⟨monitor, working, rfl, h⟩
    exact ⟨monitor, working, rfl, Marked.begins_bind_iff.mpr (.inl h)⟩

/-- Every call of a task begins behind its gate. -/
theorem gated_markedExecute {trace request : String} {operation : Mode.Operation}
    {exchanges : List Exchange}
    (h : Marked.Begins (x.markedExecute trace request) exchanges operation) :
    ∃ opening mode waits, exchanges = opening ++ ⟨.mode, mode⟩ :: waits ∧
      Gated x (x.markedExecute trace request) opening mode waits operation := by
  obtain ⟨monitor, _, rfl, hWork⟩ := begins_markedExecute_iff.mp h
  obtain ⟨routing, route, _, rfl, hRouting, hBranch⟩ := begins_markedWork_iff.mp hWork
  obtain ⟨mode, waits, rfl, hGated⟩ := gated_markedCarryOut hBranch
  have hRoutes := Activity.Only.of_runs
    (only_retryFrom (x.only_routeOnce request) (fun _ => trivial) 0) hRouting
  -- before the branch the task only starts its monitor and is routed
  refine ⟨⟨.startMonitor, monitor⟩ :: routing, mode, waits, rfl,
    ⟨?_, hGated.permitted, ?_, hGated.calling, hGated.afterPause⟩⟩
  · intro e he
    rcases List.mem_cons.mp he with rfl | he
    · nofun
    · exact (hRoutes e he).ne_mode
  · exact begins_markedExecute_iff.mpr ⟨monitor, _, rfl,
      begins_markedWork_iff.mpr ⟨routing, route, _, rfl, hRouting, hGated.begun⟩⟩

end Executor

end Task

end SteadyTask
