import SteadyTask.Narrative.Fields
import SteadyTask.Narrative.Label

/-!
# Reading a narrative from labelled lines

A text is cut into sections by the lines that start with a label; what stands before the first
label belongs to none.  The contents of a section's lines, without blanks and asterisks around
them, are joined by single spaces; a section may come in several pieces.
-/

namespace SteadyTask.Narrative

/-- Why a text holds no narrative. -/
inductive ParseFault where
  | noRationale
  | invalid (cause : Invalid)
  deriving Repr, DecidableEq

/-- The cause in words. -/
def ParseFault.message : ParseFault → String
  | .noRationale => "no rationale section found"
  | .invalid cause => cause.message

/-- The content of a line without blanks and asterisks around it. -/
def cleanContent (cs : List Char) : List Char :=
  Text.trimChars (Text.dropAround (· = '*') (Text.trimChars cs))

/-- The texts collected for each section so far. -/
structure Sections where
  rationale : Option (List Char)
  change : Option (List Char)
  impact : Option (List Char)
  deriving Repr, DecidableEq

namespace Sections

/-- Nothing collected. -/
def empty : Sections :=
  ⟨none, none, none⟩

/-- What is collected for a section. -/
def get (s : Sections) : Section → Option (List Char)
  | .rationale => s.rationale
  | .change => s.change
  | .impact => s.impact

/-- Joins a content to what is collected; an empty content adds nothing. -/
def joined (collected : Option (List Char)) (content : List Char) : Option (List Char) :=
  if content.isEmpty then collected
  else
    match collected with
    | none => some content
    | some before => some (before ++ ' ' :: content)

/-- Adds the content of a line to a section. -/
def add (s : Sections) (place : Section) (content : List Char) : Sections :=
  match place with
  | .rationale => { s with rationale := joined s.rationale content }
  | .change => { s with change := joined s.change content }
  | .impact => { s with impact := joined s.impact content }

end Sections

/-- What was read so far: the section that is open, and the texts. -/
structure Progress where
  place : Option Section
  sections : Sections
  deriving Repr, DecidableEq

/-- Reads one line. -/
def readLine (p : Progress) (line : List Char) : Progress :=
  match labelled? line with
  | some l =>
    let place := sectionOf l.label
    ⟨some place, p.sections.add place (cleanContent l.content)⟩
  | none =>
    match p.place with
    | some place => { p with sections := p.sections.add place (cleanContent line) }
    | none => p

/-- Collects the sections of a text. -/
def collect (cs : List Char) : Sections :=
  ((Text.lineChars cs).foldl readLine ⟨none, .empty⟩).sections

/-- The narrative that sections make. -/
def Sections.toFields (s : Sections) : Except ParseFault Fields :=
  match normalizeOptional (s.rationale.map String.ofList) with
  | none => .error .noRationale
  | some rationale =>
    let f : Fields :=
      ⟨rationale, normalizeOptional (s.change.map String.ofList),
        normalizeOptional (s.impact.map String.ofList)⟩
    match f.validate with
    | .error cause => .error (.invalid cause)
    | .ok () => .ok f

/-- Reads a narrative from labelled lines. -/
def parse (text : String) : Except ParseFault Fields :=
  (collect text.toList).toFields

end SteadyTask.Narrative
