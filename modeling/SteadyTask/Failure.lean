/-!
# Failed calls and failed tasks

A call to a collaborator (a tool, a model, a sensor behind a tool) fails in one of four ways.  Two
of them can pass: another attempt may succeed.  A task that fails says of which kind its failure
is; a panic inside the task is a kind of its own.
-/

namespace SteadyTask

/-- How a call to a collaborator failed. -/
inductive CallError where
  | timeout (text : String)
  | connection (text : String)
  | permissionDenied (text : String)
  | malformedResponse (text : String)
  deriving Repr, DecidableEq, Inhabited

/-- What came with a panic. -/
inductive Panic where
  | text (s : String)
  /-- Something that is no text. -/
  | other
  deriving Repr, DecidableEq, Inhabited

/-- A panic in words. -/
def Panic.message : Panic → String
  | .text s => s
  | .other => "unknown panic"

/-- Of which kind the failure of a task is. -/
inductive FailureKind where
  | timeout
  | unavailable
  | permissionDenied
  | malformedResponse
  /-- A panic in the course of the task. -/
  | internal
  deriving Repr, DecidableEq, Inhabited

namespace CallError

/-- The text that came with the error. -/
def text : CallError → String
  | .timeout t | .connection t | .permissionDenied t | .malformedResponse t => t

/-- The error in words. -/
def message : CallError → String
  | .timeout t => "Timed out: " ++ t
  | .connection t => "Connection failed: " ++ t
  | .permissionDenied t => "Permission denied: " ++ t
  | .malformedResponse t => "Malformed response: " ++ t

/-- Whether another attempt may succeed. -/
def isTransient : CallError → Bool
  | .timeout _ | .connection _ => true
  | .permissionDenied _ | .malformedResponse _ => false

/-- The kind of failure that an error means for a task. -/
def failureKind : CallError → FailureKind
  | .timeout _ => .timeout
  | .connection _ => .unavailable
  | .permissionDenied _ => .permissionDenied
  | .malformedResponse _ => .malformedResponse

end CallError

namespace FailureKind

/-- The kind in words. -/
def phrase : FailureKind → String
  | .timeout => "timeout"
  | .unavailable => "unavailable"
  | .permissionDenied => "permission denied"
  | .malformedResponse => "malformed response"
  | .internal => "internal error"

/-- The kind in records. -/
def name : FailureKind → String
  | .timeout => "timeout"
  | .unavailable => "unavailable"
  | .permissionDenied => "permission_denied"
  | .malformedResponse => "malformed_response"
  | .internal => "internal"

/-- All kinds. -/
def all : List FailureKind :=
  [.timeout, .unavailable, .permissionDenied, .malformedResponse, .internal]

/-- The kind with a given name. -/
def ofName? (name : String) : Option FailureKind :=
  all.find? fun kind => kind.name == name

end FailureKind

/-- Why a task failed. -/
structure Failure where
  kind : FailureKind
  message : String
  deriving Repr, DecidableEq, Inhabited

namespace Failure

/-- The failure that an error means for a task. -/
def ofError (e : CallError) : Failure :=
  ⟨e.failureKind, e.message⟩

/-- The failure in words. -/
def text (f : Failure) : String :=
  f.kind.phrase ++ ": " ++ f.message

end Failure

end SteadyTask
