import SteadyTask.Text.Reader

/-!
# Steps of reading TOML

What all parts of a TOML document share: blanks, ends of lines, comments, and the four kinds of
quoted text.
-/

namespace SteadyTask.Toml

open Text (Reader codedChar? apostrophe)

/-- Whether a character is a blank within a line. -/
def isSpace (c : Char) : Bool :=
  c = ' ' || c = '\t'

/-- Whether a character may stand in a comment or a quoted text: no control character but a
tab. -/
def isVisible (c : Char) : Bool :=
  c = '\t' || (32 ≤ c.toNat && c.toNat ≠ 127)

namespace Reader

open Text.Reader

/-- Drops blanks. -/
def spaces : Reader Unit := fun cs => some ((), cs.dropWhile isSpace)

/-- Takes an end of line if one comes next; says whether one did. -/
def acceptNewline : Reader Bool := fun cs =>
  match cs with
  | '\n' :: rest => some (true, rest)
  | '\r' :: '\n' :: rest => some (true, rest)
  | rest => some (false, rest)

/-- Drops a comment, if one comes next. -/
def comment : Reader Unit := fun cs =>
  match cs with
  | '#' :: rest => some ((), rest.dropWhile isVisible)
  | rest => some ((), rest)

/-- Takes what may follow on a line: blanks, a comment, and the end of the line or the text. -/
def lineEnd : Reader Unit := do
  spaces
  comment
  if ← acceptNewline then return ()
  match ← peek with
  | none => return ()
  | some _ => fail

/-- Drops blanks, comments and ends of lines, in at most so many steps. -/
def gapWithin : Nat → Reader Unit
  | 0 => pure ()
  | steps + 1 => do
    spaces
    comment
    if ← acceptNewline then gapWithin steps

/-- Drops blanks, comments and ends of lines. -/
def gap : Reader Unit := fun cs => gapWithin (cs.length + 1) cs

end Reader

/-! ## Quoted texts -/

/-- What an escape stands for, and how many characters write it after the backslash. -/
def readEscape? : List Char → Option (Char × Nat)
  | '"' :: _ => some ('"', 1)
  | '\\' :: _ => some ('\\', 1)
  | 'b' :: _ => some (Char.ofNat 8, 1)
  | 'f' :: _ => some (Char.ofNat 12, 1)
  | 'n' :: _ => some ('\n', 1)
  | 'r' :: _ => some ('\r', 1)
  | 't' :: _ => some ('\t', 1)
  | 'u' :: rest => (codedChar? 4 rest).map fun c => (c, 5)
  | 'U' :: rest => (codedChar? 8 rest).map fun c => (c, 9)
  | _ => none

/-- Reads a text on one line up to its closing quote. -/
def readBasic? (cs : List Char) : Option (List Char × List Char) :=
  match cs with
  | [] => none
  | '"' :: rest => some ([], rest)
  | '\\' :: rest =>
    match readEscape? rest with
    | none => none
    | some (c, used) => (readBasic? (rest.drop used)).map fun (ds, after) => (c :: ds, after)
  | c :: rest =>
    if isVisible c then (readBasic? rest).map fun (ds, after) => (c :: ds, after) else none
termination_by cs.length
decreasing_by all_goals (simp only [List.length_drop, List.length_cons]; omega)

/-- Reads a text on one line, without escapes, up to its closing quote. -/
def readLiteral? : List Char → Option (List Char × List Char)
  | [] => none
  | c :: rest =>
    if c = apostrophe then some ([], rest)
    else if isVisible c then (readLiteral? rest).map fun (ds, after) => (c :: ds, after)
    else none

/-- Closes a text of several lines at a run of three to five quotes: all but the last three of
them are part of the text. -/
def closeRun? (quote : Char) (cs : List Char) : Option (List Char × List Char) :=
  let run := min (cs.takeWhile (· = quote)).length 5
  if run < 3 then none else some (List.replicate (run - 3) quote, cs.drop run)

/-- What follows a backslash that stands at the end of a line: blanks and ends of lines, at least
one of these, are dropped. -/
def joinLines? (cs : List Char) : Option (List Char) :=
  match cs.dropWhile isSpace with
  | '\n' :: rest => some (dropGaps rest)
  | '\r' :: '\n' :: rest => some (dropGaps rest)
  | _ => none
where
  /-- Drops blanks and ends of lines. -/
  dropGaps : List Char → List Char
    | [] => []
    | '\r' :: '\n' :: rest => dropGaps rest
    | c :: rest => if isSpace c || c = '\n' then dropGaps rest else c :: rest

theorem length_dropGaps_le (cs : List Char) : (joinLines?.dropGaps cs).length ≤ cs.length := by
  fun_induction joinLines?.dropGaps cs <;> simp_all <;> omega

theorem length_joinLines?_le {cs rest : List Char} (h : joinLines? cs = some rest) :
    rest.length ≤ cs.length := by
  have hDrop : (cs.dropWhile isSpace).length ≤ cs.length :=
    (List.dropWhile_sublist isSpace).length_le
  unfold joinLines? at h
  split at h
  · rename_i after hAfter
    have hGaps := length_dropGaps_le after
    simp only [hAfter, List.length_cons] at hDrop
    cases h
    omega
  · rename_i after hAfter
    have hGaps := length_dropGaps_le after
    simp only [hAfter, List.length_cons] at hDrop
    cases h
    omega
  · cases h

/-- Reads a text of several lines up to its closing quotes; every end of line counts as a line
feed. -/
def readLongBasic? (cs : List Char) : Option (List Char × List Char) :=
  match closeRun? '"' cs with
  | some closed => some closed
  | none =>
    match cs with
    | [] => none
    | '\\' :: rest =>
      match h : joinLines? rest with
      | some after =>
        have := length_joinLines?_le h
        readLongBasic? after
      | none =>
        match readEscape? rest with
        | none => none
        | some (c, used) =>
          (readLongBasic? (rest.drop used)).map fun (ds, after) => (c :: ds, after)
    | '\n' :: rest => (readLongBasic? rest).map fun (ds, after) => ('\n' :: ds, after)
    | '\r' :: '\n' :: rest => (readLongBasic? rest).map fun (ds, after) => ('\n' :: ds, after)
    | c :: rest =>
      if isVisible c then (readLongBasic? rest).map fun (ds, after) => (c :: ds, after) else none
termination_by cs.length
decreasing_by all_goals (simp only [List.length_drop, List.length_cons]; omega)

/-- Reads a text of several lines, without escapes, up to its closing quotes. -/
def readLongLiteral? (cs : List Char) : Option (List Char × List Char) :=
  match closeRun? apostrophe cs with
  | some closed => some closed
  | none =>
    match cs with
    | [] => none
    | '\n' :: rest => (readLongLiteral? rest).map fun (ds, after) => ('\n' :: ds, after)
    | '\r' :: '\n' :: rest => (readLongLiteral? rest).map fun (ds, after) => ('\n' :: ds, after)
    | c :: rest =>
      if isVisible c then (readLongLiteral? rest).map fun (ds, after) => (c :: ds, after) else none

/-- A line feed right after the opening quotes of a text of several lines does not count. -/
def dropFirstNewline : List Char → List Char
  | '\n' :: rest => rest
  | '\r' :: '\n' :: rest => rest
  | rest => rest

namespace Reader

open Text.Reader

/-- Takes a quoted text on one line. -/
def shortText : Reader String := do
  if ← accept "\"" then textOf readBasic?
  else if ← accept "'" then textOf readLiteral?
  else fail

/-- Takes a quoted text. -/
def quoted : Reader String := do
  if ← accept "\"\"\"" then textOf fun cs => readLongBasic? (dropFirstNewline cs)
  else if ← accept "'''" then textOf fun cs => readLongLiteral? (dropFirstNewline cs)
  else shortText

end Reader

end SteadyTask.Toml
