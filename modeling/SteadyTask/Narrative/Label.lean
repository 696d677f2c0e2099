import SteadyTask.Text.Blank
import SteadyTask.Text.Fold
import SteadyTask.Text.Search

/-!
# Section labels

A line can start with the label of a section: blanks, a list marker, number signs, an opening of
bold text, one of six words, a closing of bold text and a colon of either width, all but the word
and the colon optional.  Letter case does not matter.  What follows the colon, and a closing of
bold text after it, is the line's content.

Which section a label opens is decided by its letters in lower case, so a label that is only
caselessly one of the words can open another section than its word would.
-/

namespace SteadyTask.Narrative

/-- A section of a narrative. -/
inductive Section where
  | rationale
  | change
  | impact
  deriving Repr, DecidableEq, Inhabited

/-- The words that label a section. -/
inductive LabelWord where
  | rationale
  | reasoning
  | reason
  | proposedChange
  | change
  | impact
  deriving Repr, DecidableEq, Inhabited

/-- The words, in the order in which they are tried. -/
def LabelWord.all : List LabelWord :=
  [.rationale, .reasoning, .reason, .proposedChange, .change, .impact]

/-- The section that a word means. -/
def LabelWord.section : LabelWord → Section
  | .rationale | .reasoning | .reason => .rationale
  | .proposedChange | .change => .change
  | .impact => .impact

/-- Takes a word from the front, regardless of letter case: the letters taken and the rest. -/
def takeWord? : List Char → List Char → Option (List Char × List Char)
  | [], rest => some ([], rest)
  | _ :: _, [] => none
  | w :: ws, c :: rest =>
    if Text.foldChar c = w then (takeWord? ws rest).map fun (taken, rest) => (c :: taken, rest)
    else none

/-- Drops one of the characters that may join the two words of a label. -/
def dropJoint : List Char → List Char × List Char
  | c :: rest => if c = ' ' ∨ c = '_' ∨ c = '-' then ([c], rest) else ([], c :: rest)
  | [] => ([], [])

/-- Takes the label of a given word from the front. -/
def LabelWord.take? (word : LabelWord) (cs : List Char) : Option (List Char × List Char) :=
  match word with
  | .rationale => takeWord? "rationale".toList cs
  | .reasoning => takeWord? "reasoning".toList cs
  | .reason => takeWord? "reason".toList cs
  | .change => takeWord? "change".toList cs
  | .impact => takeWord? "impact".toList cs
  | .proposedChange => do
    let (first, rest) ← takeWord? "proposed".toList cs
    let (joint, rest) := dropJoint rest
    let (second, rest) ← takeWord? "change".toList rest
    return (first ++ joint ++ second, rest)

/-- Drops blanks from the front. -/
def dropBlanks (cs : List Char) : List Char :=
  cs.dropWhile Text.isBlank

/-- Drops a mark of bold text from the front, if there is one. -/
def dropBold (cs : List Char) : List Char :=
  match cs with
  | '*' :: '*' :: rest => rest
  | '_' :: '_' :: rest => rest
  | rest => rest

/-- Whether a character can mark an item of a list. -/
def isListMarker (c : Char) : Bool :=
  c = '-' || c = '*' || c = '•'

/-- Takes a colon of either width, with bold text closed before it or not. -/
def afterColon? (cs : List Char) : Option (List Char) :=
  match dropBlanks (dropBold (dropBlanks cs)) with
  | c :: rest => if c = ':' ∨ c = '：' then some rest else none
  | [] => none

/-- A line that starts with a label. -/
structure Labelled where
  word : LabelWord
  label : List Char
  content : List Char
  deriving Repr, DecidableEq

/-- Reads the word of a label and what follows it. -/
def labelledBy? (cs : List Char) (word : LabelWord) : Option Labelled := do
  let (label, rest) ← word.take? cs
  let rest ← afterColon? rest
  return ⟨word, label, dropBlanks (dropBold (dropBlanks rest))⟩

/-- Reads a label from its word on. -/
def labelWord? (cs : List Char) : Option Labelled :=
  LabelWord.all.findSome? (labelledBy? cs)

/-- Reads a label after the list marker. -/
def afterMarker? (cs : List Char) : Option Labelled :=
  let cs :=
    match cs with
    | '#' :: rest => dropBlanks (rest.dropWhile (· = '#'))
    | rest => rest
  labelWord? (dropBlanks (dropBold cs))

/-- Reads the label that a line starts with.  A character that can be a list marker or the start
of a mark of bold text is first tried as a list marker. -/
def labelled? (line : List Char) : Option Labelled :=
  match dropBlanks line with
  | c :: rest =>
    if isListMarker c then
      match afterMarker? (dropBlanks rest) with
      | some l => some l
      | none => afterMarker? (c :: rest)
    else afterMarker? (c :: rest)
  | [] => none

/-- The section that a label opens, by its letters in lower case. -/
def sectionOf (label : List Char) : Section :=
  let letters := label.map Text.lowerChar
  if Text.startsWith "reason".toList letters || letters = "rationale".toList then .rationale
  else if letters = "impact".toList then .impact
  else .change

end SteadyTask.Narrative
