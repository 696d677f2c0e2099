import SteadyTask.Json.Value

/-!
# Token usage

A client adds up the tokens of its requests and answers.  The counters have 64 bits and wrap.
-/

namespace SteadyTask.Llm

/-- Tokens used so far. -/
structure Usage where
  prompt : UInt64
  completion : UInt64
  total : UInt64
  deriving Repr, DecidableEq, Inhabited

namespace Usage

/-- No tokens. -/
def none : Usage :=
  ⟨0, 0, 0⟩

/-- Adds the tokens of one exchange. -/
def add (u : Usage) (prompt completion : UInt64) : Usage :=
  ⟨u.prompt + prompt, u.completion + completion, u.total + (prompt + completion)⟩

/-- The counters as a record. -/
def toJson (u : Usage) : Json.Value :=
  .arr [.ofNat u.prompt.toNat, .ofNat u.completion.toNat, .ofNat u.total.toNat]

end Usage

end SteadyTask.Llm
