import SteadyTask.Text.Blank
import SteadyTask.Text.Search

/-!
# JSON inside other text

Answers of language models wrap JSON in prose or in a fence of backticks.  The fence wins: what
stands between the first fence that names JSON and the next fence, or the end, is the JSON.
Without a fence it is what stands from the first opening brace to the last closing brace after it,
or to the end if there is none, so that the reader can report what is missing.
-/

namespace SteadyTask.Json

/-- The start of a fence around JSON. -/
def openFence : List Char := "```json".toList

/-- A fence. -/
def fence : List Char := "```".toList

/-- What stands between braces: from the first opening to the last closing one. -/
def braced? (cs : List Char) : Option (List Char) :=
  match cs.dropWhile (· ≠ '\x7b') with
  | [] => none
  | fromBrace =>
    match Text.throughLast? (· = '\x7d') fromBrace with
    | some inside => some inside
    | none => some fromBrace

/-- The JSON inside some characters. -/
def embeddedChars? (cs : List Char) : Option (List Char) :=
  match Text.splitFirst? openFence cs with
  | some (_, rest) =>
    match Text.splitFirst? fence rest with
    | some (inside, _) => some (Text.trimChars inside)
    | none => some (Text.trimChars rest)
  | none => braced? cs

/-- The JSON inside a text. -/
def embedded? (s : String) : Option String :=
  (embeddedChars? s.toList).map String.ofList

end SteadyTask.Json
