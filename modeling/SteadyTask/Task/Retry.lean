import SteadyTask.Activity
import SteadyTask.Recovery

/-!
# Calls with retries

A call is attempted until it succeeds, until it fails for good, or until its retries are used up.
Between two attempts a delay passes.  An attempt that is not over within its limit counts as timed
out.  A panic ends the call at once.
-/

namespace SteadyTask.Task

/-- How the work of a task ends. -/
inductive Ending (α : Type) where
  | value (a : α)
  | failed (f : Failure)
  | panicked (p : Panic)
  deriving Repr, Inhabited

/-- The error of an attempt that was not over within its limit. -/
def overdueError (kind : CallKind) (limit : Millis) : CallError :=
  .timeout (kind.name ++ " call exceeded " ++ limit.text)

/-- What follows an attempt. -/
inductive AfterAttempt (α : Type) where
  | finish (ending : Ending α)
  | retryAfter (delay : Millis)
  deriving Repr

/-- Decides what follows attempt number `attempt`, counted from zero. -/
def afterAttempt {α : Type} (r : Recovery) (kind : CallKind) (attempt : Nat) :
    Outcome CallError α → AfterAttempt α
  | .value a => .finish (.value a)
  | .panicked p => .finish (.panicked p)
  | .error e => ofAction (r.handle kind e attempt)
  | .overdue => ofAction (r.handle kind (overdueError kind (r.policy kind).limit) attempt)
where
  /-- What an action of recovery means here. -/
  ofAction : RecoveryAction → AfterAttempt α
    | .retryAfter delay => .retryAfter delay
    | .fail f => .finish (.failed f)

/-- Another attempt follows only while retries are left. -/
theorem lt_maxRetries_of_afterAttempt {α : Type} {r : Recovery} {kind : CallKind} {attempt : Nat}
    {outcome : Outcome CallError α} {delay : Millis}
    (h : afterAttempt r kind attempt outcome = .retryAfter delay) :
    attempt < (r.policy kind).maxRetries := by
  cases outcome with
  | value a => simp [afterAttempt] at h
  | panicked p => simp [afterAttempt] at h
  | error e =>
    cases hAction : r.handle kind e attempt with
    | retryAfter d => exact Recovery.lt_maxRetries_of_retryAfter hAction
    | fail f => simp [afterAttempt, hAction, afterAttempt.ofAction] at h
  | overdue =>
    cases hAction : r.handle kind (overdueError kind (r.policy kind).limit) attempt with
    | retryAfter d => exact Recovery.lt_maxRetries_of_retryAfter hAction
    | fail f => simp [afterAttempt, hAction, afterAttempt.ofAction] at h

/-- Attempts a call, from attempt number `attempt` on. -/
def retryFrom {α : Type} (r : Recovery) (kind : CallKind)
    (call : Activity (Outcome CallError α)) (attempt : Nat) : Activity (Ending α) :=
  call.bind fun outcome =>
    match h : afterAttempt r kind attempt outcome with
    | .finish ending => .done ending
    | .retryAfter delay =>
      .request (.pause delay) fun _ => retryFrom r kind call (attempt + 1)
termination_by (r.policy kind).maxRetries - attempt
decreasing_by
  have := lt_maxRetries_of_afterAttempt h
  omega

/-- Attempts a call until it is over. -/
def retry {α : Type} (r : Recovery) (kind : CallKind) (call : Activity (Outcome CallError α)) :
    Activity (Ending α) :=
  retryFrom r kind call 0

end SteadyTask.Task
