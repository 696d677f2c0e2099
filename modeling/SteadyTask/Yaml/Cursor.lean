/-!
# Places in a YAML text

In YAML the column at which something starts decides what it belongs to.  A cursor is a place in a
text that knows its line and its column.  Lines end in a line feed here, and the text ends before
its first NUL.
-/

namespace SteadyTask.Yaml

/-! ## Kinds of characters -/

/-- Whether a character is a blank within a line. -/
def isSpace (c : Char) : Bool :=
  c = ' ' || c = '\t'

/-- Whether a character is a blank or an end of line. -/
def isGapChar (c : Char) : Bool :=
  isSpace c || c = '\n'

/-- Whether a blank, an end of line or the end of the text comes next. -/
def startsBlank (cs : List Char) : Bool :=
  cs.head?.all isGapChar

/-- Whether an end of line or the end of the text comes next. -/
def startsBreak (cs : List Char) : Bool :=
  cs.head?.all (· = '\n')

/-- Whether a character opens, closes or separates what stands between brackets. -/
def isFlowSign (c : Char) : Bool :=
  ",[]\x7b\x7d".toList.contains c

/-- Whether a sign comes next that counts between brackets. -/
def startsFlow (cs : List Char) : Bool :=
  cs.head?.any isFlowSign

/-- Whether a character can stand in the name of a directive or in the handle of a tag. -/
def isWordChar (c : Char) : Bool :=
  c.isAlphanum || c = '_' || c = '-'

/-! ## Cursors -/

/-- A place in a text. -/
structure Cursor where
  rest : List Char
  /-- How many characters are before it. -/
  index : Nat
  /-- How many lines are before it. -/
  line : Nat
  column : Nat
  /-- Whether only blanks are before it on its line. -/
  fresh : Bool
  deriving Repr, DecidableEq, Inhabited

namespace Cursor

/-- The start of a text. -/
def start (cs : List Char) : Cursor :=
  ⟨cs, 0, 0, 0, true⟩

/-- The place after so many characters of the line, which are all blanks or not. -/
def pass (blank : Bool) (count : Nat) (c : Cursor) : Cursor :=
  { c with
    rest := c.rest.drop count, index := c.index + count, column := c.column + count,
    fresh := c.fresh && (blank || count = 0) }

/-- The start of the next line, from the end of a line. -/
def passBreak (c : Cursor) : Cursor :=
  ⟨c.rest.drop 1, c.index + 1, c.line + 1, 0, true⟩

/-- The place further on in the line where some characters are left. -/
def upTo (rest : List Char) (c : Cursor) : Cursor :=
  c.pass false (c.rest.length - rest.length)

/-- The place at the end of the line. -/
def passLine (c : Cursor) : Cursor :=
  c.pass false (c.rest.takeWhile (· ≠ '\n')).length

/-- The place after the blanks of the line and the comment that may follow them, with those blanks.
A comment without a blank before it is a mistake. -/
def passBlanks? (c : Cursor) : Option (List Char × Cursor) :=
  let blanks := c.rest.takeWhile isSpace
  let next := c.pass true blanks.length
  if next.rest.head? = some '#' then
    if blanks.isEmpty then none else some (blanks, next.passLine)
  else some (blanks, next)

/-- Whether a line starts that separates documents with three of a sign. -/
def isAtMark (sign : Char) (c : Cursor) : Bool :=
  c.column = 0 && c.rest.take 3 = [sign, sign, sign] && startsBlank (c.rest.drop 3)

/-- Whether a line starts that separates documents. -/
def isAtAnyMark (c : Cursor) : Bool :=
  c.isAtMark '-' || c.isAtMark '.'

end Cursor

end SteadyTask.Yaml
