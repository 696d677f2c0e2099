import SteadyTask.Json.Record
import SteadyTask.Text.Blank
import SteadyTask.Text.Fold

/-!
# Narratives

A narrative has a rationale and, optionally, a proposed change and its impact.  It is normal when
its texts are trimmed and no optional text is blank or a placeholder such as `none`; it is valid
when the rationale is not blank and no text is longer than 2000 characters.
-/

namespace SteadyTask.Narrative

/-- The texts of a narrative. -/
structure Fields where
  rationale : String
  proposedChange : Option String
  impact : Option String
  deriving Repr, DecidableEq, Inhabited

/-- The most characters a text may have. -/
def maxChars : Nat := 2000

/-- Why a narrative is not valid. -/
inductive Invalid where
  | emptyRationale
  | tooLong (field : String)
  deriving Repr, DecidableEq

/-- The cause in words. -/
def Invalid.message : Invalid → String
  | .emptyRationale => "rationale is empty"
  | .tooLong field => field ++ " exceeds " ++ toString maxChars ++ " chars"

/-- Texts that stand for an absent one. -/
def placeholders : List String :=
  ["", "none", "n/a", "na", "null", "-"]

/-- Whether a trimmed text stands for an absent one, in any letter case. -/
def isPlaceholder (text : String) : Bool :=
  placeholders.contains (Text.lower text)

/-- Trims an optional text; a placeholder is absent. -/
def normalizeOptional (text : Option String) : Option String :=
  match text with
  | none => none
  | some t => if isPlaceholder (Text.trim t) then none else some (Text.trim t)

/-- Whether a text has more characters than allowed. -/
def isTooLong (text : String) : Bool :=
  text.length > maxChars

namespace Fields

/-- Says what is not valid, if anything. -/
def validate (f : Fields) : Except Invalid Unit :=
  if Text.isAllBlank f.rationale then .error .emptyRationale
  else if isTooLong f.rationale then .error (.tooLong "rationale")
  else if f.proposedChange.any isTooLong then .error (.tooLong "proposed_change")
  else if f.impact.any isTooLong then .error (.tooLong "impact")
  else .ok ()

/-- Trims the texts and drops placeholders. -/
def normalize (f : Fields) : Fields where
  rationale := Text.trim f.rationale
  proposedChange := normalizeOptional f.proposedChange
  impact := normalizeOptional f.impact

/-- How a narrative is written in JSON. -/
def shape : Json.Shape Fields where
  name := "struct NarrativeFields"
  strict := true
  start := ⟨"", none, none⟩
  fields :=
    [⟨"rationale", .required, fun _ f => do return { f with rationale := ← Json.Reader.str }⟩,
      ⟨"proposed_change", .defaulted, fun _ f => do
        return { f with proposedChange := ← Json.Reader.optional Json.Reader.str }⟩,
      ⟨"impact", .defaulted, fun _ f => do
        return { f with impact := ← Json.Reader.optional Json.Reader.str }⟩]

/-- A narrative as a record. -/
def toJson (f : Fields) : Json.Value :=
  .ofFields [("rationale", .str f.rationale), ("proposed_change", .ofText? f.proposedChange),
    ("impact", .ofText? f.impact)]

end Fields

end SteadyTask.Narrative
