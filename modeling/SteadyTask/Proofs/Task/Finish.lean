import SteadyTask.Proofs.Task.Panics

/-!
# How a task ends

Executing a task always returns, whatever its surroundings answer.  The task then has gone through
routing and either failed there, or gone into the branch of its route and failed there, or gone on
to reflection and completion; its state is the last of these.  It has a reply exactly if it is
completed and a failure exactly if it is not, the failure is internal exactly if the routed work met
a panic, and the summary of its monitor is there in any case.

Nothing is said here about which exchanges there are, or how many.
-/

namespace SteadyTask.Task

open Activity

/-! ## Endings -/

/-- What a retried call ends with is what followed one of its attempts. -/
theorem exists_afterAttempt_of_retryFrom {α : Type} {r : Recovery} {kind : CallKind}
    {call : Activity (Outcome CallError α)} {attempt : Nat} {exchanges : List Exchange}
    {ending : Ending α} (h : Runs (retryFrom r kind call attempt) exchanges ending) :
    ∃ last outcome, afterAttempt r kind last outcome = .finish ending := by
  -- by how many retries are left
  induction hLeft : (r.policy kind).maxRetries - attempt using Nat.strong_induction_on
    generalizing attempt exchanges with
  | _ left ih =>
      rw [retryFrom_eq] at h
      obtain ⟨first, outcome, second, rfl, -, hSecond⟩ := runs_bind_iff.mp h
      cases hAfter : afterAttempt r kind attempt outcome with
      | finish reached =>
          simp only [hAfter] at hSecond
          obtain ⟨-, rfl⟩ := runs_done_iff.mp hSecond
          exact ⟨attempt, outcome, hAfter⟩
      | retryAfter delay =>
          simp only [hAfter] at hSecond
          obtain ⟨_, rest, rfl, hRest⟩ := runs_request_iff.mp hSecond
          have hMore := lt_maxRetries_of_afterAttempt hAfter
          exact ih _ (by omega) hRest rfl

theorem failureKind_ne_internal (e : CallError) : e.failureKind ≠ .internal := by
  cases e <;> nofun

/-- No failed call is an internal failure. -/
theorem kind_ne_internal_of_handle {r : Recovery} {kind : CallKind} {e : CallError} {attempt : Nat}
    {f : Failure} (h : r.handle kind e attempt = .fail f) : f.kind ≠ .internal := by
  unfold Recovery.handle at h
  split at h
  · split at h
    · cases h
    · cases h
      exact failureKind_ne_internal e
  · cases h
    exact failureKind_ne_internal e

theorem kind_ne_internal_of_ofAction {α : Type} {r : Recovery} {kind : CallKind} {e : CallError}
    {attempt : Nat} {f : Failure}
    (h : afterAttempt.ofAction (r.handle kind e attempt) =
      (.finish (.failed f) : AfterAttempt α)) : f.kind ≠ .internal := by
  cases hAction : r.handle kind e attempt with
  | retryAfter delay =>
      rw [hAction] at h
      cases h
  | fail g =>
      rw [hAction] at h
      cases h
      exact kind_ne_internal_of_handle hAction

theorem kind_ne_internal_of_retry {α : Type} {r : Recovery} {kind : CallKind}
    {call : Activity (Outcome CallError α)} {exchanges : List Exchange} {f : Failure}
    (h : Runs (retry r kind call) exchanges (.failed f)) : f.kind ≠ .internal := by
  obtain ⟨last, outcome, hAfter⟩ := exists_afterAttempt_of_retryFrom h
  cases outcome with
  | value a => cases hAfter
  | panicked p => cases hAfter
  | error e => exact kind_ne_internal_of_ofAction hAfter
  | overdue => exact kind_ne_internal_of_ofAction hAfter

namespace Executor

variable {x : Executor}

/-! ## The branch -/

/-- What the governance is asked about before a route is carried out. -/
def operation? : Route → Option Mode.Operation
  | .handleDirect _ => none
  | .toolCall _ _ => some .toolCall
  | .modelDelegate _ => some .modelDelegate

/-- The governance panics when it is asked about a route, in the mode that was answered first. -/
def GovernancePanics (x : Executor) (route : Route) (branch : List Exchange) (p : Panic) : Prop :=
  ∃ operation mode, operation? route = some operation ∧ branch.head? = some ⟨.mode, mode⟩ ∧
    x.governance.rule mode operation = .error p

/-- Guarded work asks for the mode once; it is left out if the governance denies it or panics. -/
theorem runs_ifPermitted {operation : Mode.Operation} {work : Activity (Ending String)}
    {exchanges : List Exchange} {ending : Ending String}
    (h : Runs (x.ifPermitted operation work) exchanges ending) :
    ∃ mode rest, exchanges = ⟨.mode, mode⟩ :: rest ∧
      match x.governance.rule mode operation with
      | .ok true => Runs work rest ending
      | .ok false => rest = [] ∧ ending = .failed (denied operation mode)
      | .error p => rest = [] ∧ ending = .panicked p := by
  obtain ⟨mode, rest, rfl, hRest⟩ := runs_perform_bind_iff.mp h
  refine ⟨mode, rest, rfl, ?_⟩
  cases hRule : x.governance.rule mode operation with
  | error p =>
      simp only [hRule] at hRest
      exact runs_done_iff.mp hRest
  | ok permitted =>
      cases permitted with
      | true =>
          simp only [hRule] at hRest
          exact hRest
      | false =>
          simp only [hRule] at hRest
          exact runs_done_iff.mp hRest

/-- Guarded work ends with a panic exactly if the work or the governance panics. -/
theorem panic?_ifPermitted {operation : Mode.Operation} {work : Activity (Ending String)}
    (hWork : Surfaces work Ending.panic?) {exchanges : List Exchange} {ending : Ending String}
    (h : Runs (x.ifPermitted operation work) exchanges ending) (p : Panic) :
    ending.panic? = some p ↔ (∃ e ∈ exchanges, e.panic? = some p) ∨
      ∃ mode, exchanges.head? = some ⟨.mode, mode⟩ ∧
        x.governance.rule mode operation = .error p := by
  obtain ⟨mode, rest, rfl, hRest⟩ := runs_ifPermitted h
  have hMode : (⟨.mode, mode⟩ : Exchange).panic? ≠ some p := nofun
  have hHead : (∃ asked, (⟨.mode, mode⟩ :: rest : List Exchange).head? = some ⟨.mode, asked⟩ ∧
      x.governance.rule asked operation = .error p) ↔
        x.governance.rule mode operation = .error p := by
    constructor
    · rintro ⟨asked, hAsked, hRule⟩
      cases hAsked
      exact hRule
    · exact fun hRule => ⟨mode, rfl, hRule⟩
  rw [hHead, List.exists_mem_cons_iff, or_iff_right hMode]
  cases hRule : x.governance.rule mode operation with
  | error q =>
      simp only [hRule] at hRest
      obtain ⟨rfl, rfl⟩ := hRest
      simp [Ending.panic?]
  | ok permitted =>
      cases permitted with
      | true =>
          simp only [hRule] at hRest
          rw [hWork rest ending hRest p]
          simp
      | false =>
          simp only [hRule] at hRest
          obtain ⟨rfl, rfl⟩ := hRest
          simp [Ending.panic?]

/-- A branch ends with a panic exactly if it meets one or the governance panics. -/
theorem panic?_carryOut {route : Route} {exchanges : List Exchange} {ending : Ending String}
    (h : Runs (x.carryOut route) exchanges ending) (p : Panic) :
    ending.panic? = some p ↔
      (∃ e ∈ exchanges, e.panic? = some p) ∨ x.GovernancePanics route exchanges p := by
  cases route with
  | handleDirect reply =>
      obtain ⟨rfl, rfl⟩ := runs_done_iff.mp h
      simp [Ending.panic?, GovernancePanics, operation?]
  | toolCall tool args =>
      rw [panic?_ifPermitted (surfaces_retry (x.surfaces_callToolOnce tool args)) h p]
      simp [GovernancePanics, operation?]
  | modelDelegate prompt =>
      rw [panic?_ifPermitted (surfaces_retry (x.surfaces_delegateOnce prompt)) h p]
      simp [GovernancePanics, operation?]

theorem kind_ne_internal_of_ifPermitted {operation : Mode.Operation}
    {work : Activity (Ending String)}
    (hWork : ∀ exchanges f, Runs work exchanges (.failed f) → f.kind ≠ .internal)
    {exchanges : List Exchange} {f : Failure}
    (h : Runs (x.ifPermitted operation work) exchanges (.failed f)) : f.kind ≠ .internal := by
  obtain ⟨mode, rest, rfl, hRest⟩ := runs_ifPermitted h
  cases hRule : x.governance.rule mode operation with
  | error q =>
      simp only [hRule] at hRest
      cases hRest.2
  | ok permitted =>
      cases permitted with
      | true =>
          simp only [hRule] at hRest
          exact hWork rest f hRest
      | false =>
          simp only [hRule] at hRest
          cases hRest.2
          nofun

/-- No branch fails with an internal failure of its own. -/
theorem kind_ne_internal_of_carryOut {route : Route} {exchanges : List Exchange} {f : Failure}
    (h : Runs (x.carryOut route) exchanges (.failed f)) : f.kind ≠ .internal := by
  cases route with
  | handleDirect reply =>
      obtain ⟨-, hEnding⟩ := runs_done_iff.mp h
      cases hEnding
  | toolCall tool args =>
      exact kind_ne_internal_of_ifPermitted (fun _ _ => kind_ne_internal_of_retry) h
  | modelDelegate prompt =>
      exact kind_ne_internal_of_ifPermitted (fun _ _ => kind_ne_internal_of_retry) h

/-! ## The whole task -/

/-- A task routes first, and goes into a branch only if that gives a route. -/
theorem runs_work {request : String} {c c' : Context} {exchanges : List Exchange}
    {ending : Ending String} (h : Runs (x.work request c) exchanges (c', ending)) :
    ∃ routing routed branch, exchanges = routing ++ branch ∧
      Runs (retry x.recovery .model (x.routeOnce request)) routing routed ∧
      match routed with
      | .value route => c' = (c.advance (branchOf route).1 (branchOf route).2).1 ∧
          Runs (x.carryOut route) branch ending
      | .failed f => branch = [] ∧ c' = c ∧ ending = .failed f
      | .panicked p => branch = [] ∧ c' = c ∧ ending = .panicked p := by
  obtain ⟨routing, routed, branch, rfl, hRouting, hBranch⟩ := runs_bind_iff.mp h
  refine ⟨routing, routed, branch, rfl, hRouting, ?_⟩
  -- the branch is entered only with a route
  cases routed with
  | failed f =>
      obtain ⟨rfl, hResult⟩ := runs_done_iff.mp hBranch
      cases hResult
      exact ⟨rfl, rfl, rfl⟩
  | panicked p =>
      obtain ⟨rfl, hResult⟩ := runs_done_iff.mp hBranch
      cases hResult
      exact ⟨rfl, rfl, rfl⟩
  | value route =>
      obtain ⟨carried, reached, rest, rfl, hCarried, hRest⟩ := runs_bind_iff.mp hBranch
      obtain ⟨rfl, hResult⟩ := runs_done_iff.mp hRest
      cases hResult
      rw [List.append_nil]
      exact ⟨rfl, hCarried⟩

/-- A task starts its monitor, works, and ends with the summary of that monitor. -/
theorem runs_execute {trace request : String} {exchanges : List Exchange} {c : Context}
    (h : Runs (x.execute trace request) exchanges c) :
    ∃ monitor working worked ending summary mode,
      exchanges = ⟨.startMonitor, monitor⟩ :: (working ++
        [⟨.stopMonitor monitor, summary⟩, ⟨.evaluate summary, ()⟩, ⟨.mode, mode⟩,
          ⟨.reflect (.ofContext trace request (close worked ending) mode summary), ()⟩]) ∧
      Runs (x.work request Context.start) working (worked, ending) ∧
      c = { close worked ending with summary := some summary } := by
  obtain ⟨monitor, rest, rfl, hRest⟩ := runs_perform_bind_iff.mp h
  obtain ⟨working, ⟨worked, ending⟩, closing, rfl, hWork, hClosing⟩ := runs_bind_iff.mp hRest
  obtain ⟨summary, afterStop, rfl, hEvaluate⟩ := runs_perform_bind_iff.mp hClosing
  obtain ⟨_, afterEvaluate, rfl, hMode⟩ :=
    (runs_perform_bind_iff (r := .evaluate summary)).mp hEvaluate
  obtain ⟨mode, afterMode, rfl, hReflect⟩ := (runs_perform_bind_iff (r := .mode)).mp hMode
  obtain ⟨_, afterReflect, rfl, hDone⟩ := (runs_perform_bind_iff
    (r := .reflect (.ofContext trace request (close worked ending) mode summary))).mp hReflect
  obtain ⟨rfl, rfl⟩ := runs_done_iff.mp hDone
  exact ⟨monitor, working, worked, ending, summary, mode, rfl, hWork, rfl⟩

/-- The work of a task ends with a panic exactly if it meets one or the governance panics. -/
theorem panic?_work {request : String} {routing branch : List Exchange} {routed : Ending Route}
    {ending : Ending String}
    (hRouting : Runs (retry x.recovery .model (x.routeOnce request)) routing routed)
    (hBranch : match routed with
      | .value route => Runs (x.carryOut route) branch ending
      | .failed f => branch = [] ∧ ending = .failed f
      | .panicked p => branch = [] ∧ ending = .panicked p) (p : Panic) :
    ending.panic? = some p ↔ (∃ e ∈ routing ++ branch, e.panic? = some p) ∨
      ∃ route, routed = .value route ∧ x.GovernancePanics route branch p := by
  have hSurfaces := surfaces_retry (x.surfaces_routeOnce request) routing routed hRouting p
  -- without a route there is no branch, and with one the routing met no panic
  cases routed with
  | failed f =>
      obtain ⟨rfl, rfl⟩ := hBranch
      rw [List.append_nil, ← hSurfaces]
      simp [Ending.panic?]
  | panicked q =>
      obtain ⟨rfl, rfl⟩ := hBranch
      rw [List.append_nil, ← hSurfaces]
      simp [Ending.panic?]
  | value route =>
      have hNone : ¬ ∃ e ∈ routing, e.panic? = some p := by
        rw [← hSurfaces]
        nofun
      rw [panic?_carryOut hBranch p]
      simp only [List.mem_append, or_and_right, exists_or, hNone, false_or, Ending.value.injEq,
        exists_eq_left']

/-! ## Closing -/

theorem fail_of_not_terminal {c : Context} (h : c.state.isTerminal = false) (f : Failure) :
    c.fail f = { c with
      state := .failed
      steps := c.steps ++ [⟨.failed, some f.text⟩]
      failure := some f } := by
  have hAdvance : c.state.canAdvance .failed = true := by
    rw [State.canAdvance, h]
    rfl
  rw [Context.fail, if_neg (by simp [h]), Context.advance, if_pos hAdvance]

theorem close_value_of_branch {c : Context} (h : c.state.isBranch = true) (reply : String) :
    close c (.value reply) = { c with
      state := .completed
      steps := c.steps ++ [⟨.reflection, none⟩, ⟨.completed, none⟩]
      reply := some reply } := by
  have hReflection : c.state.canAdvance .reflection = true := by
    cases hState : c.state <;> rw [hState] at h <;> first | rfl | cases h
  have hCompleted : State.canAdvance .reflection .completed = true := rfl
  -- both advances are possible, first from the branch and then from reflection
  simp only [close, Context.advance, hReflection, if_true, hCompleted, List.append_assoc,
    List.cons_append, List.nil_append]

/-- The context of a task that has gone into a branch. -/
theorem advance_branchOf (route : Route) :
    (Context.start.advance (branchOf route).1 (branchOf route).2).1 = { Context.start with
      state := (branchOf route).1
      steps := [⟨.routing, none⟩, ⟨(branchOf route).1, (branchOf route).2⟩] } := by
  cases route <;> rfl

theorem isBranch_branchOf (route : Route) : (branchOf route).1.isBranch = true := by
  cases route <;> rfl

theorem isTerminal_branchOf (route : Route) : (branchOf route).1.isTerminal = false := by
  cases route <;> rfl

/-- What holds of a task that has ended, given what its routing came to, all exchanges and those of
its branch. -/
structure Finished (x : Executor) (routed : Ending Route) (exchanges branch : List Exchange)
    (c : Context) : Prop where
  states : match routed with
    | .value route =>
      c.steps.map Step.state = [.routing, (branchOf route).1, .failed] ∨
        c.steps.map Step.state = [.routing, (branchOf route).1, .reflection, .completed]
    | _ => c.steps.map Step.state = [.routing, .failed]
  last : c.steps.getLast?.map Step.state = some c.state
  completed_iff_reply : c.state = .completed ↔ c.reply.isSome = true
  completed_iff_no_failure : c.state = .completed ↔ c.failure = none
  failed_iff : c.state = .failed ↔ c.failure.isSome = true ∧ c.reply = none
  internal_iff : (∃ f, c.failure = some f ∧ f.kind = .internal) ↔
    ∃ p, (∃ e ∈ exchanges, e.panic? = some p) ∨
      ∃ route, routed = .value route ∧ x.GovernancePanics route branch p
  summarised : c.summary.isSome = true

/-! ## Ways to finish -/

section Ways

variable {routed : Ending Route} {exchanges branch : List Exchange} {c : Context}
  {summary : Metric.Summary}

/-- The states that a task has entered when it is carried out, or when it could not be routed. -/
def entered : Ending Route → List State
  | .value route => [.routing, (branchOf route).1]
  | _ => [.routing]

/-- A task that fails where it has no reply yet has finished. -/
theorem finished_of_fail {f : Failure} (hLive : c.state.isTerminal = false)
    (hReply : c.reply = none) (hStates : c.steps.map Step.state = entered routed)
    (hInternal : f.kind = .internal ↔
      ∃ p, (∃ e ∈ exchanges, e.panic? = some p) ∨
        ∃ route, routed = .value route ∧ x.GovernancePanics route branch p) :
    Finished x routed exchanges branch { c.fail f with summary := some summary } := by
  rw [fail_of_not_terminal hLive]
  refine ⟨?_, ?_, ?_, ?_, ?_, ?_, rfl⟩
  · have hAll : (c.steps ++ [Step.mk .failed (some f.text)]).map Step.state =
        entered routed ++ [.failed] := by
      rw [List.map_append, hStates]
      rfl
    cases routed with
    | value route => exact .inl hAll
    | failed g => exact hAll
    | panicked p => exact hAll
  · show (c.steps ++ [Step.mk .failed (some f.text)]).getLast?.map Step.state = some .failed
    rw [List.getLast?_concat]
    rfl
  · simp [hReply]
  · simp
  · simp [hReply]
  · rw [← hInternal]
    simp

/-- A task that is completed in a branch, where no panic was met, has finished. -/
theorem finished_of_complete {route : Route} {reply : String} (hBranch : c.state.isBranch = true)
    (hFailure : c.failure = none) (hStates : c.steps.map Step.state = entered (.value route))
    (hNone : ¬ ∃ p, (∃ e ∈ exchanges, e.panic? = some p) ∨
      ∃ route', Ending.value route = .value route' ∧ x.GovernancePanics route' branch p) :
    Finished x (.value route) exchanges branch
      { close c (.value reply) with summary := some summary } := by
  rw [close_value_of_branch hBranch]
  refine ⟨.inr ?_, ?_, ?_, ?_, ?_, ?_, rfl⟩
  · show (c.steps ++ [Step.mk .reflection none, Step.mk .completed none]).map Step.state = _
    rw [List.map_append, hStates]
    rfl
  · show (c.steps ++ [Step.mk .reflection none, Step.mk .completed none]).getLast?.map
      Step.state = _
    rw [List.getLast?_append]
    rfl
  · simp
  · simp [hFailure]
  · simp
  · refine iff_of_false ?_ hNone
    simp [hFailure]

/-- However the work of a live task ends, the task has finished. -/
theorem finished_of_ending {ending : Ending String} (hLive : c.state.isTerminal = false)
    (hReply : c.reply = none) (hFailure : c.failure = none)
    (hStates : c.steps.map Step.state = entered routed)
    (hValue : ∀ reply, ending = .value reply →
      c.state.isBranch = true ∧ ∃ route, routed = .value route)
    (hKind : ∀ f, ending = .failed f → f.kind ≠ .internal)
    (hPanic : ∀ p, ending.panic? = some p ↔ (∃ e ∈ exchanges, e.panic? = some p) ∨
      ∃ route, routed = .value route ∧ x.GovernancePanics route branch p) :
    Finished x routed exchanges branch { close c ending with summary := some summary } := by
  cases ending with
  | failed f =>
      refine finished_of_fail hLive hReply hStates ?_
      simp only [← hPanic]
      exact iff_of_false (hKind f rfl) (fun ⟨p, hp⟩ => nomatch hp)
  | panicked p =>
      refine finished_of_fail hLive hReply hStates (iff_of_true rfl ?_)
      simp only [← hPanic]
      exact ⟨p, rfl⟩
  | value reply =>
      obtain ⟨hBranch, route, rfl⟩ := hValue reply rfl
      refine finished_of_complete hBranch hFailure hStates ?_
      simp only [← hPanic]
      exact fun ⟨p, hp⟩ => nomatch hp

end Ways

/-- The panics of a task are those of its routing and its branch. -/
theorem exists_panic_iff {monitor : Nat} {summary : Metric.Summary} {mode : Mode}
    {input : Reflection.Input} {working : List Exchange} {p : Panic} :
    (∃ e ∈ (⟨.startMonitor, monitor⟩ :: (working ++ [⟨.stopMonitor monitor, summary⟩,
        ⟨.evaluate summary, ()⟩, ⟨.mode, mode⟩, ⟨.reflect input, ()⟩]) : List Exchange),
      e.panic? = some p) ↔ ∃ e ∈ working, e.panic? = some p := by
  constructor
  · rintro ⟨e, he, hp⟩
    rcases List.mem_cons.mp he with rfl | he
    · cases hp
    · rcases List.mem_append.mp he with he | he
      · exact ⟨e, he, hp⟩
      · simp only [List.mem_cons, List.not_mem_nil, or_false] at he
        rcases he with rfl | rfl | rfl | rfl <;> cases hp
  · rintro ⟨e, he, hp⟩
    exact ⟨e, List.mem_cons_of_mem _ (List.mem_append_left _ he), hp⟩

/-- Executing a request returns whatever the surroundings answer, and then the task has finished. -/
theorem execute_finishes (x : Executor) (trace request : String) :
    (∀ s : Surroundings, ∃ exchanges c,
      Runs (x.execute trace request) exchanges c ∧ AnsweredBy s [] exchanges) ∧
    ∀ exchanges c, Runs (x.execute trace request) exchanges c →
      ∃ monitor routing routed branch closing,
        exchanges = ⟨.startMonitor, monitor⟩ :: (routing ++ branch ++ closing) ∧
        Runs (retry x.recovery .model (x.routeOnce request)) routing routed ∧
        Finished x routed exchanges branch c := by
  refine ⟨fun s => exists_runs s _ [], ?_⟩
  intro exchanges c h
  obtain ⟨monitor, working, worked, ending, summary, mode, rfl, hWork, rfl⟩ := runs_execute h
  obtain ⟨routing, routed, branch, rfl, hRouting, hBranch⟩ := runs_work hWork
  refine ⟨monitor, routing, routed, branch, _, rfl, hRouting, ?_⟩
  cases routed with
  | failed f =>
      obtain ⟨rfl, rfl, rfl⟩ := hBranch
      refine finished_of_ending rfl rfl rfl rfl nofun ?_ ?_
      · rintro _ ⟨⟩
        exact kind_ne_internal_of_retry hRouting
      · intro p
        exact (panic?_work hRouting ⟨rfl, rfl⟩ p).trans (or_congr_left exists_panic_iff.symm)
  | panicked q =>
      obtain ⟨rfl, rfl, rfl⟩ := hBranch
      refine finished_of_ending rfl rfl rfl rfl nofun nofun ?_
      intro p
      exact (panic?_work hRouting ⟨rfl, rfl⟩ p).trans (or_congr_left exists_panic_iff.symm)
  | value route =>
      obtain ⟨rfl, hCarried⟩ := hBranch
      rw [advance_branchOf]
      refine finished_of_ending (isTerminal_branchOf route) rfl rfl rfl
        (fun _ _ => ⟨isBranch_branchOf route, route, rfl⟩) ?_ ?_
      · rintro f rfl
        exact kind_ne_internal_of_carryOut hCarried
      · intro p
        exact (panic?_work hRouting hCarried p).trans (or_congr_left exists_panic_iff.symm)

end Executor

end SteadyTask.Task
