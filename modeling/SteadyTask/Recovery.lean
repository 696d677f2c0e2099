import SteadyTask.Failure
import SteadyTask.Time

/-!
# Retries

Tools and models each have a time limit and a number of retries.  After a failure that can pass,
and while retries are left, the call is made again after a delay that doubles with every failure
up to a cap; any other failure ends the call.
-/

namespace SteadyTask

/-- What is called. -/
inductive CallKind where
  | tool
  | model
  deriving Repr, DecidableEq

/-- The kind in messages. -/
def CallKind.name : CallKind → String
  | .tool => "tool"
  | .model => "model"

/-- How long one attempt may take, and how many attempts may follow the first. -/
structure RetryPolicy where
  limit : Millis
  maxRetries : Nat
  deriving Repr, DecidableEq

/-- Delays and policies.  The cap is never below the first delay. -/
structure Recovery where
  firstDelay : Millis
  cap : Millis
  firstDelay_le_cap : firstDelay ≤ cap
  tool : RetryPolicy
  model : RetryPolicy

/-- What to do after a failed attempt. -/
inductive RecoveryAction where
  | retryAfter (delay : Millis)
  | fail (failure : Failure)
  deriving Repr, DecidableEq

namespace Recovery

/-- Delays and policies, with the cap raised to the first delay if it is lower. -/
def make (firstDelay cap : Millis) (tool model : RetryPolicy) : Recovery where
  firstDelay := firstDelay
  cap := max cap firstDelay
  firstDelay_le_cap := Nat.le_max_right cap firstDelay
  tool := tool
  model := model

/-- The policy for a kind of call. -/
def policy (r : Recovery) : CallKind → RetryPolicy
  | .tool => r.tool
  | .model => r.model

/-- From this failure on the factor of the delay no longer grows. -/
def lastDoubling : Nat := 16

/-- The delay after failure number `attempt`, counted from zero. -/
def backoff (r : Recovery) (attempt : Nat) : Millis :=
  min (min (r.firstDelay * Nat.pow 2 (min attempt lastDoubling)) Millis.longest) r.cap

/-- The failure of a call whose retries are used up. -/
def exhausted (kind : CallKind) (e : CallError) (attempt : Nat) : Failure :=
  ⟨e.failureKind,
    kind.name ++ " call failed after " ++ toString (attempt + 1) ++ " attempts: " ++ e.message⟩

/-- Decides what follows failure number `attempt`, counted from zero. -/
def handle (r : Recovery) (kind : CallKind) (e : CallError) (attempt : Nat) : RecoveryAction :=
  if e.isTransient then
    if attempt < (r.policy kind).maxRetries then .retryAfter (r.backoff attempt)
    else .fail (exhausted kind e attempt)
  else .fail (Failure.ofError e)

/-- A retry is granted only while retries are left. -/
theorem lt_maxRetries_of_retryAfter {r : Recovery} {kind : CallKind} {e : CallError}
    {attempt : Nat} {delay : Millis} (h : r.handle kind e attempt = .retryAfter delay) :
    attempt < (r.policy kind).maxRetries := by
  unfold handle at h
  split at h
  · split at h
    · assumption
    · cases h
  · cases h

end Recovery

end SteadyTask
