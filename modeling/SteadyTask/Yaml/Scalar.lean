import SteadyTask.Text.Reader
import SteadyTask.Yaml.Cursor

/-!
# Scalars on lines in YAML

A scalar in quotes, or a plain one.  Both can go on on further lines, as long as these are moved in
enough.  The lines are folded: one end of line becomes a blank, and of several in a row the first is
dropped.
-/

namespace SteadyTask.Yaml

/-- What ends of lines between two parts of a folded text come to. -/
def folded (breaks : Nat) : List Char :=
  if breaks = 1 then [' '] else List.replicate (breaks - 1) '\n'

/-! ## In quotes -/

/-- What a character after a backslash stands for. -/
def escaped? (c : Char) : Option Char :=
  match c with
  | '0' => some (Char.ofNat 0)
  | 'a' => some (Char.ofNat 7)
  | 'b' => some (Char.ofNat 8)
  | 't' | '\t' => some '\t'
  | 'n' => some '\n'
  | 'v' => some (Char.ofNat 11)
  | 'f' => some (Char.ofNat 12)
  | 'r' => some '\r'
  | 'e' => some (Char.ofNat 27)
  | ' ' => some ' '
  | '"' => some '"'
  | '/' => some '/'
  | '\\' => some '\\'
  | 'N' => some (Char.ofNat 0x85)
  | '_' => some (Char.ofNat 0xA0)
  | 'L' => some (Char.ofNat 0x2028)
  | 'P' => some (Char.ofNat 0x2029)
  | _ => none

/-- Reads what a backslash before some characters comes to, and how many of them it takes. -/
def readEscape? : List Char → Option (Char × Nat)
  | [] => none
  | 'x' :: rest => (Text.codedChar? 2 rest).map fun c => (c, 3)
  | 'u' :: rest => (Text.codedChar? 4 rest).map fun c => (c, 5)
  | 'U' :: rest => (Text.codedChar? 8 rest).map fun c => (c, 9)
  | c :: _ => (escaped? c).map fun c => (c, 1)

/-- What was read of a scalar in quotes up to a blank, an end of line or the closing quote. -/
structure QuotedRun where
  text : List Char
  /-- Whether it stopped behind a line whose end was taken away by a backslash. -/
  joined : Bool
  next : Cursor
  deriving Repr

/-- Reads a scalar in quotes up to a blank, an end of line or the closing quote, in at most so many
steps.  In single quotes two of them stand for one, in double quotes there are escapes. -/
def readQuotedRun? (quote : Char) : Nat → Cursor → Option QuotedRun
  | 0, _ => none
  | steps + 1, c =>
    match c.rest with
    | [] => some ⟨[], false, c⟩
    | s :: rest =>
      if isGapChar s then some ⟨[], false, c⟩
      else if s = quote then
        if quote = Text.apostrophe ∧ rest.head? = some quote then
          (readQuotedRun? quote steps (c.pass false 2)).map fun run =>
            { run with text := quote :: run.text }
        else some ⟨[], false, c⟩
      else if s = '\\' ∧ quote = '"' then
        if rest.head? = some '\n' then some ⟨[], true, (c.pass false 1).passBreak⟩
        else do
          let (meant, used) ← readEscape? rest
          let run ← readQuotedRun? quote steps (c.pass false (used + 1))
          return { run with text := meant :: run.text }
      else
        (readQuotedRun? quote steps (c.pass false 1)).map fun run =>
          { run with text := s :: run.text }

/-- Passes blanks and ends of lines from the start of a line on, in at most so many steps, and
counts the ends.  A tab cannot stand where a line has to be moved in by blanks. -/
def passBreaks? (indent : Int) : Nat → Cursor → Option (Nat × Cursor)
  | 0, c => some (0, c)
  | steps + 1, c =>
    match c.rest with
    | '\n' :: _ => (passBreaks? indent steps c.passBreak).map fun (n, c) => (n + 1, c)
    | ' ' :: _ => passBreaks? indent steps (c.pass true 1)
    | '\t' :: _ => if c.column < indent then none else passBreaks? indent steps (c.pass true 1)
    | _ => some (0, c)

/-- Reads the blanks and ends of lines inside quotes: blanks alone stay as they are. -/
def readFold? (indent : Int) (run : QuotedRun) : Option (List Char × Cursor) :=
  let steps := run.next.rest.length + 1
  if run.joined then
    (passBreaks? indent steps run.next).map fun (n, c) => (List.replicate n '\n', c)
  else
    let blanks := run.next.rest.takeWhile isSpace
    let c := run.next.pass true blanks.length
    if c.rest.head? = some '\n' then
      (passBreaks? indent steps c).map fun (n, c) => (folded n, c)
    else some (blanks, c)

/-- Reads a scalar in quotes up to its closing quote, in at most so many steps. -/
def readQuoted? (indent : Int) (quote : Char) : Nat → Cursor → Option (List Char × Cursor)
  | 0, _ => none
  | steps + 1, c =>
    if c.isAtAnyMark || c.rest.isEmpty || c.column < indent then none
    else do
      let run ← readQuotedRun? quote (c.rest.length + 1) c
      if run.next.rest.head? = some quote then return (run.text, run.next.pass false 1)
      else
        let (fold, c) ← readFold? indent run
        let (more, c) ← readQuoted? indent quote steps c
        return (run.text ++ fold ++ more, c)

/-- Whether something can follow a scalar in quotes, which started on a given line. -/
def canFollowQuoted (inFlow : Bool) (line : Nat) (c : Cursor) : Bool :=
  match c.rest with
  | [] => true
  | s :: _ =>
    s = '\n' || (inFlow && (s = ',' || s = ']' || s = '\x7d' || s = ':')) ||
      (s = ':' && line = c.line)

/-- Reads a scalar from its opening quote to what follows it on the line. -/
def quoted? (inFlow : Bool) (indent : Int) (c : Cursor) : Option (List Char × Cursor) := do
  let quote ← c.rest.head?
  let (text, next) ← readQuoted? indent quote (c.rest.length + 1) (c.pass false 1)
  let (_, next) ← next.passBlanks?
  if canFollowQuoted inFlow c.line next then return (text, next) else none

/-! ## Plain -/

/-- Splits off the part of a plain scalar up to a blank or an end of line.  A colon before a blank
ends it, and between brackets each sign that counts there. -/
def plainRun (inFlow : Bool) : List Char → List Char × List Char
  | [] => ([], [])
  | c :: rest =>
    if isGapChar c || (c = ':' && (startsBlank rest || (inFlow && startsFlow rest))) ||
        (inFlow && isFlowSign c) then ([], c :: rest)
    else
      let (taken, after) := plainRun inFlow rest
      (c :: taken, after)

/-- Passes blanks and ends of lines between the lines of a plain scalar, in at most so many steps,
and counts the ends.  Where a line has to be moved in, a tab can stand only if nothing follows it
on the line. -/
def passPlainBreaks? (least : Int) : Nat → Cursor → Option (Nat × Cursor)
  | 0, c => some (0, c)
  | steps + 1, c =>
    match c.rest with
    | '\n' :: _ => (passPlainBreaks? least steps c.passBreak).map fun (n, c) => (n + 1, c)
    | ' ' :: _ => passPlainBreaks? least steps (c.pass true 1)
    | '\t' :: _ =>
      if c.column < least then do
        let (_, c) ← c.passBlanks?
        if startsBreak c.rest then passPlainBreaks? least steps c else none
      else passPlainBreaks? least steps (c.pass true 1)
    | _ => some (0, c)

/-- Reads what is between two parts of a plain scalar. -/
def readPlainFold? (least : Int) (c : Cursor) : Option (List Char × Cursor) :=
  let blanks := c.rest.takeWhile isSpace
  let c := c.pass true blanks.length
  if c.rest.head? = some '\n' then
    (passPlainBreaks? least (c.rest.length + 1) c).map fun (n, c) => (folded n, c)
  else some (blanks, c)

/-- Reads the parts of a plain scalar and what stands between them, in at most so many steps, given
what stands before the next part. -/
def readPlain? (inFlow : Bool) (least : Int) : Nat → List Char → Cursor →
    Option (List Char × Cursor)
  | 0, _, _ => none
  | steps + 1, before, c =>
    if c.isAtAnyMark || c.rest.head? = some '#' then some ([], c)
    else if inFlow && c.rest.head? = some '-' && startsFlow (c.rest.drop 1) then none
    else
      let (run, rest) := plainRun inFlow c.rest
      let next := c.upTo rest
      let taken := if run.isEmpty then [] else before ++ run
      if rest.head?.any isGapChar then do
        let (fold, next) ← readPlainFold? least next
        if !inFlow && next.column < least then return (taken, next)
        else
          let (more, next) ← readPlain? inFlow least steps fold next
          return (taken ++ more, next)
      else some (taken, next)

/-- Reads a plain scalar up to what follows it, given the column in which the collection around it
starts. -/
def plain? (inFlow : Bool) (indent : Int) (c : Cursor) : Option (List Char × Cursor) :=
  if inFlow && c.column < indent + 1 then none
  else
    (readPlain? inFlow (indent + 1) (c.rest.length + 1) [] c).filter fun (text, _) =>
      !text.isEmpty

end SteadyTask.Yaml
