import SteadyTask.Yaml.Cursor

/-!
# Blocks of lines in YAML

A scalar that is a block of lines is opened by `|`, or by `>` if its lines are folded.  The lines
are moved in as far as the first of them that is not empty, or as far as is told; signs after the
opening one tell that, and whether the ends of lines at the end of the block are kept or dropped.
-/

namespace SteadyTask.Yaml

/-- What becomes of the ends of lines at the end of a block. -/
inductive Chomping where
  /-- One is kept. -/
  | clip
  | keep
  | strip
  deriving Repr, DecidableEq

/-- How a block of lines is read. -/
structure BlockStyle where
  chomping : Chomping
  /-- How far the lines are moved in, or zero if that is not told. -/
  increment : Nat
  deriving Repr, DecidableEq

/-- Reads the sign that tells the chomping. -/
def readChomping : List Char → Chomping × List Char
  | '+' :: rest => (.keep, rest)
  | '-' :: rest => (.strip, rest)
  | rest => (.clip, rest)

/-- Reads how far the lines are moved in, which is never by zero. -/
def readIncrement? : List Char → Option (Nat × List Char)
  | c :: rest =>
    if c = '0' then none
    else if c.isDigit then some (c.toNat - '0'.toNat, rest)
    else some (0, c :: rest)
  | [] => some (0, [])

/-- Reads the signs after the one that opens a block, in either order. -/
def readStyle? (cs : List Char) : Option (BlockStyle × List Char) := do
  match readChomping cs with
  | (.clip, cs) =>
    let (increment, rest) ← readIncrement? cs
    let (chomping, rest) := if increment = 0 then (.clip, rest) else readChomping rest
    return (⟨chomping, increment⟩, rest)
  | (chomping, cs) =>
    let (increment, rest) ← readIncrement? cs
    return (⟨chomping, increment⟩, rest)

/-- Passes the blanks of a line up to a column. -/
def passIndent (indent : Nat) (c : Cursor) : Cursor :=
  c.pass true ((c.rest.takeWhile (· = ' ')).length.min (indent - c.column))

/-- Passes empty lines, at most so many, and the blanks of the next one up to a column; counts the
lines. -/
def passEmptyLines (indent : Nat) : Nat → Cursor → Nat × Cursor
  | 0, c => (0, c)
  | steps + 1, c =>
    let next := passIndent indent c
    if next.rest.head? = some '\n' then
      let (n, after) := passEmptyLines indent steps next.passBreak
      (n + 1, after)
    else (0, next)

/-- Passes lines of blanks, at most so many, and the blanks of the next one; counts the lines, and
finds the greatest column in which one of them ends. -/
def passLeadingLines : Nat → Cursor → Nat × Nat × Cursor
  | 0, c => (0, 0, c)
  | steps + 1, c =>
    let next := c.pass true (c.rest.takeWhile (· = ' ')).length
    if next.rest.head? = some '\n' then
      let (n, column, after) := passLeadingLines steps next.passBreak
      (n + 1, max column next.column, after)
    else (0, next.column, next)

/-- What is between two lines of a block: ends of lines, the first of which counts apart. -/
def blockFold (folds ended : Bool) (breaks : Nat) : List Char :=
  if folds && ended then
    if breaks = 0 then [' '] else List.replicate breaks '\n'
  else List.replicate (breaks + if ended then 1 else 0) '\n'

/-- Lines of a block that have been read. -/
structure BlockLines where
  text : List Char
  /-- Whether the last line has ended. -/
  ended : Bool
  /-- How many empty lines follow. -/
  empty : Nat
  next : Cursor
  deriving Repr

/-- Reads the lines of a block, at most so many, from the column that they are moved in by.  Lines
are folded only where neither of the two starts with a blank.  What is known of the line before is
whether there is one that has ended, how many empty lines follow it, and whether it starts with a
blank. -/
def readBlockLines (folds : Bool) (indent : Nat) : Nat → Bool → Nat → Bool → Cursor → BlockLines
  | 0, ended, empty, _, c => ⟨[], ended, empty, c⟩
  | steps + 1, ended, empty, blankBefore, c =>
    if c.column ≠ indent ∨ c.rest.isEmpty ∨ (indent = 0 ∧ c.isAtMark '.') then
      ⟨[], ended, empty, c⟩
    else
      let blank := c.rest.head?.any isSpace
      let fold := blockFold (folds && !blankBefore && !blank) ended empty
      let line := c.rest.takeWhile (· ≠ '\n')
      let next := c.passLine
      if next.rest.isEmpty then ⟨fold ++ line, false, 0, next⟩
      else
        let (empty, next) := passEmptyLines indent (next.rest.length + 1) next.passBreak
        let more := readBlockLines folds indent steps true empty blank next
        { more with text := fold ++ line ++ more.text }

/-- The text of lines, as the chomping leaves it.  A last line that ends with the text counts as
ended. -/
def BlockLines.chomped (lines : BlockLines) (chomping : Chomping) (indent : Nat) : List Char :=
  let last :=
    (if lines.ended then ['\n'] else []) ++
      if lines.next.rest.isEmpty && max indent 1 ≤ lines.next.column then ['\n'] else []
  match chomping with
  | .strip => lines.text
  | .clip => lines.text ++ last
  | .keep => lines.text ++ last ++ List.replicate lines.empty '\n'

/-- The text of a block without lines at the end of a text, given whether the line that opens it has
ended and how many empty lines follow. -/
def Chomping.ofNothing (chomping : Chomping) (ended : Bool) (empty : Nat) : List Char :=
  if !ended then []
  else
    match chomping with
    | .strip => []
    | .clip => ['\n']
    | .keep => List.replicate (max empty 1) '\n'

/-- Reads a block of lines from the sign that opens it, given the column in which the collection
around it starts. -/
def block? (indent : Int) (c : Cursor) : Option (List Char × Cursor) := do
  let folds := c.rest.head? = some '>'
  let c := c.pass false 1
  let (style, rest) ← readStyle? c.rest
  let (_, c) ← (c.upTo rest).passBlanks?
  if !startsBreak c.rest then none
  else
    let ended := !c.rest.isEmpty
    let c := if ended then c.passBreak else c
    if c.rest.head? = some '\t' then none
    else
      let steps := c.rest.length + 1
      let (column, empty, c) :=
        if style.increment = 0 then
          let (empty, column, c) := passLeadingLines steps c
          (max column (indent + 1).toNat, empty, c)
        else
          let column := indent.toNat + style.increment
          let (empty, c) := passEmptyLines column steps c
          (column, empty, c)
      if c.rest.isEmpty then return (style.chomping.ofNothing ended empty, c)
      else if c.column < column ∧ indent < c.column then none
      else
        let lines := readBlockLines folds column steps false empty false c
        return (lines.chomped style.chomping column, lines.next)

end SteadyTask.Yaml
