import SteadyTask.Proofs.Task.Calls
import SteadyTask.Proofs.Task.Finish
import SteadyTask.Proofs.Task.RetryLaw

/-!
# Malformed answers of the router

A routing call makes one request, and nothing else in the course of a task makes the same one.  If
its answer is malformed, that call is the last one of the task, however many retries are left: the
task fails, its monitor is stopped and evaluated, and it is handed over to reflection.

Which answers of a routing model are malformed is not settled here.
-/

namespace SteadyTask.Task

open Activity

/-! ## Calls that fail for good -/

section Retry

variable {α : Type} {r : Recovery} {kind : CallKind} {call : Activity (Outcome CallError α)}
  {e : Exchange} {error : CallError}

/-- A call makes a single exchange, and where it is a given one the call fails with an error. -/
structure FailsOn (call : Activity (Outcome CallError α)) (e : Exchange) (error : CallError) :
    Prop where
  single : ∀ exchanges outcome, Runs call exchanges outcome → ∃ f, exchanges = [f]
  fails : Runs call [e] (.error error)

/-- An error that will not pass ends a call with retries at once, at whichever attempt. -/
theorem runs_retryFrom_of_failsOn (hCall : FailsOn call e error)
    (hLasting : error.isTransient = false) (hPause : ∀ delay, e.request ≠ .pause delay)
    {attempt : Nat} {before after : List Exchange} {ending : Ending α}
    (h : Runs (retryFrom r kind call attempt) (before ++ e :: after) ending) :
    after = [] ∧ ending = .failed (.ofError error) := by
  -- by how many retries are left
  induction hLeft : (r.policy kind).maxRetries - attempt using Nat.strong_induction_on
    generalizing attempt before with
  | _ left ih =>
      rw [retryFrom_eq] at h
      obtain ⟨first, outcome, second, hSplit, hFirst, hSecond⟩ := runs_bind_iff.mp h
      obtain ⟨f, rfl⟩ := hCall.single first outcome hFirst
      cases before with
      | nil =>
          -- the exchange is this attempt
          obtain ⟨rfl, rfl⟩ := List.cons.inj hSplit
          obtain rfl := hFirst.unique hCall.fails
          have hSettles : settles (.error error : Outcome CallError α) = true := by
            rw [settles, hLasting]
            rfl
          rw [afterAttempt_of_last (.inl hSettles)] at hSecond
          obtain ⟨rfl, rfl⟩ := runs_done_iff.mp hSecond
          rw [endingOf, lastFailure, if_neg (by simp [hLasting])]
          exact ⟨rfl, rfl⟩
      | cons g before =>
          -- this attempt comes before it, so a pause and another attempt follow
          obtain ⟨rfl, rfl⟩ := List.cons.inj hSplit
          cases hAfter : afterAttempt r kind attempt outcome with
          | finish reached =>
              simp only [hAfter] at hSecond
              exact absurd (runs_done_iff.mp hSecond).1 (by simp)
          | retryAfter delay =>
              simp only [hAfter] at hSecond
              obtain ⟨_, rest, hRest, hMore⟩ := runs_request_iff.mp hSecond
              cases before with
              | nil => exact absurd (congrArg Exchange.request (List.cons.inj hRest).1) (hPause delay)
              | cons pause before =>
                  obtain ⟨rfl, rfl⟩ := List.cons.inj hRest
                  have hLess := lt_maxRetries_of_afterAttempt hAfter
                  exact ih _ (by omega) hMore rfl

end Retry

namespace Executor

variable {x : Executor} {request : String}

/-! ## The routing call -/

/-- What a routing call requests. -/
def routingRequest (x : Executor) (request : String) : Request :=
  match x.router with
  | .planner client instructions =>
    .ask client [.system instructions, .user request] (some (x.recovery.policy .model).limit)
  | .installed => .consult (x.recovery.policy .model).limit

theorem exists_of_runs_routeOnce {exchanges : List Exchange} {outcome : Outcome CallError Route}
    (h : Runs (x.routeOnce request) exchanges outcome) :
    ∃ e, exchanges = [e] ∧ e.request = x.routingRequest request := by
  unfold routeOnce at h
  unfold routingRequest
  cases hRouter : x.router with
  | planner client instructions =>
      simp only [hRouter] at h
      obtain ⟨answer, rest, rfl, hRest⟩ := runs_perform_bind_iff.mp h
      obtain ⟨rfl, -⟩ := runs_done_iff.mp hRest
      exact ⟨_, rfl, rfl⟩
  | installed =>
      simp only [hRouter] at h
      exact ⟨_, runs_perform_iff.mp h, rfl⟩

/-- What a planner's model answers is read as a route. -/
theorem runs_routeOnce_of_planner {client instructions : String}
    (hRouter : x.router = .planner client instructions) (request : String)
    (outcome : Outcome CallError String) :
    Runs (x.routeOnce request)
      [⟨.ask client [.system instructions, .user request]
        (some (x.recovery.policy .model).limit), outcome⟩] (routeAnswer outcome) := by
  unfold routeOnce
  rw [hRouter]
  exact runs_perform_bind_iff.mpr ⟨outcome, [], rfl, .done _⟩

theorem routingRequest_ne_of_isOfTool {r : Request} (h : r.IsOfTool) :
    r ≠ x.routingRequest request := by
  unfold routingRequest
  rintro rfl
  split at h <;> exact h

theorem routingRequest_ne_pause (delay : Millis) : x.routingRequest request ≠ .pause delay := by
  unfold routingRequest
  split <;> nofun

theorem isCalling_routingRequest : (x.routingRequest request).IsCalling := by
  unfold routingRequest
  split <;> trivial

/-- A delegate is told nothing but its prompt, so it is never asked as a router is. -/
theorem ask_user_ne_routingRequest (client prompt : String) (limit : Option Millis) :
    .ask client [.user prompt] limit ≠ x.routingRequest request := by
  unfold routingRequest
  split <;> nofun

/-- Once there is a route the router is not asked again. -/
theorem only_carryOut_ne_routingRequest (route : Route) :
    (x.carryOut route).Only (· ≠ x.routingRequest request) := by
  have hMode : Request.mode ≠ x.routingRequest request := isCalling_routingRequest.ne_mode.symm
  have hPause (delay : Millis) : Request.pause delay ≠ x.routingRequest request :=
    (routingRequest_ne_pause delay).symm
  cases route with
  | handleDirect reply => exact trivial
  | toolCall tool args =>
      have hTool : (x.callToolOnce tool args).Only (· ≠ x.routingRequest request) :=
        (x.only_callToolOnce_isOfTool tool args).mono fun _ => routingRequest_ne_of_isOfTool
      exact only_ifPermitted hMode (only_retryFrom hTool hPause 0)
  | modelDelegate prompt =>
      have hDelegate : (x.delegateOnce prompt).Only (· ≠ x.routingRequest request) :=
        only_perform (ask_user_ne_routingRequest _ _ _)
      exact only_ifPermitted hMode (only_retryFrom hDelegate hPause 0)

/-! ## After a malformed answer -/

/-- What comes after an exchange that is not among the later ones. -/
theorem exists_of_append_cons_eq {e : Exchange} {before after front back : List Exchange}
    (h : before ++ e :: after = front ++ back) (hBack : e ∉ back) :
    ∃ left, front = before ++ e :: left ∧ after = left ++ back := by
  rcases List.append_eq_append_iff.mp h with ⟨left, hFront, hLeft⟩ | ⟨left, -, hLeft⟩
  · cases left with
    | nil =>
        rw [List.nil_append] at hLeft
        exact absurd (hLeft ▸ List.mem_cons_self) hBack
    | cons f left =>
        obtain ⟨rfl, rfl⟩ := List.cons.inj hLeft
        exact ⟨left, hFront, rfl⟩
  · exact absurd (hLeft ▸ List.mem_append_right left List.mem_cons_self) hBack

/-- An answer of the router that is malformed. -/
def MalformedAnswer (x : Executor) (request : String) (e : Exchange) (text : String) : Prop :=
  Runs (x.routeOnce request) [e] (.error (.malformedResponse text))

section Malformed

variable {e : Exchange} {text : String} (hMalformed : x.MalformedAnswer request e text)

include hMalformed

theorem MalformedAnswer.request_eq : e.request = x.routingRequest request := by
  obtain ⟨f, hEq, hRequest⟩ := exists_of_runs_routeOnce hMalformed
  cases hEq
  exact hRequest

theorem MalformedAnswer.failsOn :
    FailsOn (x.routeOnce request) e (.malformedResponse text) where
  single exchanges outcome h := by
    obtain ⟨f, rfl, -⟩ := exists_of_runs_routeOnce h
    exact ⟨f, rfl⟩
  fails := hMalformed

/-- A malformed answer ends the work of a task. -/
theorem MalformedAnswer.runs_work {c c' : Context} {before after : List Exchange}
    {ending : Ending String}
    (h : Runs (x.work request c) (before ++ e :: after) (c', ending)) :
    after = [] ∧ c' = c ∧ ending = .failed (.ofError (.malformedResponse text)) := by
  obtain ⟨routing, routed, branch, hSplit, hRouting, hBranch⟩ := Executor.runs_work h
  have hRequest := hMalformed.request_eq
  -- the answer is not one of the branch
  have hNotBranch : e ∉ branch := by
    intro he
    cases routed with
    | value route => exact (only_carryOut_ne_routingRequest route).of_runs hBranch.2 e he hRequest
    | failed f => simp [hBranch.1] at he
    | panicked p => simp [hBranch.1] at he
  obtain ⟨left, rfl, rfl⟩ := exists_of_append_cons_eq hSplit hNotBranch
  have hPause (delay : Millis) : e.request ≠ .pause delay := by
    rw [hRequest]
    exact routingRequest_ne_pause delay
  obtain ⟨rfl, rfl⟩ := runs_retryFrom_of_failsOn hMalformed.failsOn rfl hPause hRouting
  obtain ⟨rfl, rfl, rfl⟩ := hBranch
  exact ⟨rfl, rfl, rfl⟩

/-- A malformed answer leaves nothing of a task but its end. -/
theorem MalformedAnswer.runs_execute {trace : String} {c : Context} {before after : List Exchange}
    (h : Runs (x.execute trace request) (before ++ e :: after) c) :
    (∀ f ∈ after, ¬ f.request.IsCalling) ∧ c.state = .failed ∧ c.reply = none ∧
      c.failure = some (.ofError (.malformedResponse text)) := by
  obtain ⟨monitor, working, worked, ending, summary, mode, hSplit, hWork, rfl⟩ :=
    Executor.runs_execute h
  have hCalling : e.request.IsCalling := by
    rw [hMalformed.request_eq]
    exact isCalling_routingRequest
  have hClosing : ∀ f ∈ ([⟨.stopMonitor monitor, summary⟩, ⟨.evaluate summary, ()⟩,
      ⟨.mode, mode⟩, ⟨.reflect (.ofContext trace request (close worked ending) mode summary), ()⟩] :
        List Exchange), ¬ f.request.IsCalling := by
    simp [Request.IsCalling]
  -- the answer is neither the first exchange nor one of the last
  cases before with
  | nil =>
      obtain ⟨rfl, -⟩ := List.cons.inj hSplit
      exact absurd hCalling id
  | cons started before =>
      obtain ⟨left, rfl, rfl⟩ := exists_of_append_cons_eq (List.cons.inj hSplit).2
        fun he => hClosing e he hCalling
      obtain ⟨rfl, rfl, rfl⟩ := hMalformed.runs_work hWork
      exact ⟨hClosing, rfl, rfl, rfl⟩

/-- After a malformed answer the task comes to its end in all surroundings, it makes no other call
on the way, and it has failed. -/
theorem MalformedAnswer.task_fails {trace : String} {before : List Exchange}
    {left : Activity Context}
    (h : Reaches (x.execute trace request) (before ++ [e]) left) :
    (∀ s : Surroundings, ∃ after c, Runs left after c ∧ AnsweredBy s (before ++ [e]) after) ∧
      ∀ after c, Runs left after c → (∀ f ∈ after, ¬ f.request.IsCalling) ∧
        c.state = .failed ∧ c.reply = none ∧
        c.failure = some (.ofError (.malformedResponse text)) := by
  refine ⟨fun s => exists_runs s left _, fun after c hAfter => ?_⟩
  have hRun : Runs (x.execute trace request) (before ++ e :: after) c := by
    rw [← reaches_done_iff, List.append_cons]
    exact reaches_append_iff.mpr ⟨left, h, reaches_done_iff.mpr hAfter⟩
  exact hMalformed.runs_execute hRun

end Malformed

end Executor

end SteadyTask.Task
