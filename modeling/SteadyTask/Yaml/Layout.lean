import SteadyTask.Yaml.Block
import SteadyTask.Yaml.Scalar
import SteadyTask.Yaml.Token

/-!
# From lines to tokens

The columns in which things start open and close the collections of a YAML text, and a colon turns
what stands before it on its line into a key.  Reading therefore keeps the columns of the
collections that are open, and a place for a key on each level of brackets.  The main function is
`tokens?`, which gives the tokens of a whole text.
-/

namespace SteadyTask.Yaml

/-- A place where a key may have started. -/
structure PossibleKey where
  possible : Bool
  /-- Whether nothing else can stand in this place. -/
  required : Bool
  /-- How many tokens are before it. -/
  place : Nat
  start : Cursor
  deriving Repr, Inhabited

namespace PossibleKey

/-- No key. -/
def none : PossibleKey :=
  ⟨false, false, 0, .start []⟩

/-- Whether a key would have to end before some place: keys are short and stay on their line. -/
def isStale (k : PossibleKey) (c : Cursor) : Bool :=
  k.possible && (k.start.line < c.line || k.start.index + 1024 < c.index)

end PossibleKey

/-- A column that counts while something is open. -/
structure Indent where
  /-- The column that counts after it. -/
  outer : Int
  /-- Whether it is the column of a collection in lines. -/
  isBlock : Bool
  deriving Repr, DecidableEq

/-- What is known at a place of a text. -/
structure Layout where
  cursor : Cursor
  /-- The tokens before it, the latest first. -/
  tokens : List Token
  /-- Whether a key can start here. -/
  keyAllowed : Bool
  /-- The possible keys, of the innermost brackets first, and last the one outside. -/
  keys : List PossibleKey
  /-- The column of what is open, and -1 outside of everything. -/
  indent : Int
  indents : List Indent
  /-- How many brackets are open. -/
  depth : Nat
  /-- Whether braces or a question mark tell that a colon between brackets belongs to a table. -/
  inTable : Bool
  /-- Whether a colon between brackets has opened a table of one entry. -/
  inPair : Bool
  /-- The index at which a colon needs no blank after it. -/
  adjacent : Nat
  deriving Repr, Inhabited

/-- The start of a text. -/
def Layout.start (cs : List Char) : Layout :=
  ⟨.start cs, [], true, [.none], -1, [], 0, false, false, 0⟩

/-- Moves on in a layout and takes something. -/
abbrev Reader (α : Type) := StateT Layout Option α

namespace Reader

/-! ## Steps -/

/-- Fails. -/
def fail {α : Type} : Reader α := fun _ => none

/-- Where the text is read. -/
def cursor : Reader Cursor := return (← get).cursor

/-- Moves on. -/
def move (f : Cursor → Cursor) : Reader Unit :=
  modify fun s => { s with cursor := f s.cursor }

/-- Takes what a function on places reads. -/
def take {α : Type} (read : Cursor → Option (α × Cursor)) : Reader α := fun s =>
  (read s.cursor).map fun (a, c) => (a, { s with cursor := c })

/-- Takes what a function on characters of a line reads. -/
def takeChars {α : Type} (read : List Char → Option (α × List Char)) : Reader α :=
  take fun c => (read c.rest).map fun (a, rest) => (a, c.upTo rest)

/-- Takes blanks and a comment up to the end of the line. -/
def blanks : Reader (List Char) :=
  take Cursor.passBlanks?

/-- Adds a token. -/
def push (t : Token) : Reader Unit :=
  modify fun s => { s with tokens := t :: s.tokens }

/-- Adds a token at an earlier place. -/
def insert (place : Nat) (t : Token) : Reader Unit :=
  modify fun s =>
    let later := s.tokens.length - place
    { s with tokens := s.tokens.take later ++ t :: s.tokens.drop later }

/-- Says whether a key can start next. -/
def allowKey (allowed : Bool) : Reader Unit :=
  modify fun s => { s with keyAllowed := allowed }

/-- Moves over the end of a line, after which keys can start outside of brackets. -/
def lineBreak : Reader Unit :=
  modify fun s =>
    { s with cursor := s.cursor.passBreak, keyAllowed := s.keyAllowed || s.depth = 0 }

/-! ## Possible keys -/

/-- The possible key of the innermost brackets. -/
def currentKey : Reader PossibleKey := return (← get).keys.headD .none

/-- Replaces the possible key of the innermost brackets. -/
def setKey (k : PossibleKey) : Reader Unit :=
  modify fun s => { s with keys := k :: s.keys.tail }

/-- Notes that a key may start here. -/
def noteKey : Reader Unit := do
  let s ← get
  if s.keyAllowed then
    let isBlock := s.indents.head?.any Indent.isBlock
    let required := s.depth = 0 && s.indent = s.cursor.column && isBlock
    setKey ⟨true, required, s.tokens.length, s.cursor⟩

/-- Gives up the possible key of the innermost brackets. -/
def dropKey : Reader Unit := do
  let k ← currentKey
  if k.possible && k.required then fail
  setKey { k with possible := false }

/-- Gives up possible keys that would have to end before here. -/
def dropStaleKeys : Reader Unit := do
  let s ← get
  if s.depth = 0 then
    if s.keys.any fun k => k.isStale s.cursor && k.required then fail
    let keys := s.keys.map fun k => { k with possible := k.possible && !k.isStale s.cursor }
    set { s with keys := keys }

/-! ## Columns -/

/-- Closes what is open further to the right than a column. -/
def closeDeeper (column : Int) :
    Int → List Indent → List Token → Int × List Indent × List Token
  | indent, [], tokens => (indent, [], tokens)
  | indent, i :: indents, tokens =>
    if column < indent then
      closeDeeper column i.outer indents (if i.isBlock then .linesEnd :: tokens else tokens)
    else (indent, i :: indents, tokens)

/-- Closes what is open further to the right than a column, unless a bracket is open. -/
def closeTo (column : Int) : Reader Unit :=
  modify fun s =>
    if s.depth = 0 then
      let (indent, indents, tokens) := closeDeeper column s.indent s.indents s.tokens
      { s with indent := indent, indents := indents, tokens := tokens }
    else s

/-- Forgets the last column if it is not that of a collection in lines and lies no further to the
right than a given one. -/
def forgetUpTo (column : Int) : Reader Unit :=
  modify fun s =>
    match s.indents with
    | i :: indents =>
      if s.indent ≤ column ∧ i.isBlock = false then
        { s with indent := i.outer, indents := indents }
      else s
    | [] => s

/-- The column of the collection in lines around some columns. -/
def blockColumn : Int → List Indent → Int × List Indent
  | indent, [] => (indent, [])
  | indent, i :: indents =>
    if i.isBlock then (indent, i :: indents) else blockColumn i.outer indents

/-- Forgets the last columns that are not those of collections in lines. -/
def forgetExtra : Reader Unit :=
  modify fun s =>
    let (indent, indents) := blockColumn s.indent s.indents
    { s with indent := indent, indents := indents }

/-- Opens a collection in lines at a column, unless one is open there or a bracket is open; its
token comes at a place. -/
def openAt (column : Nat) (place : Nat) (t : Token) : Reader Unit := do
  if (← get).depth = 0 then
    forgetUpTo column
    if (← get).indent < column then
      modify fun s =>
        { s with indent := column, indents := ⟨s.indent, true⟩ :: s.indents }
      insert place t

/-- Asks for one more column for what follows in a collection in lines. -/
def moveIn : Reader Unit :=
  modify fun s =>
    if s.depth = 0 ∧ s.indents.head?.any Indent.isBlock then
      { s with indent := s.indent + 1, indents := ⟨s.indent, false⟩ :: s.indents }
    else s

/-! ## Blanks -/

/-- Moves over blanks, comments and ends of lines, in at most so many steps.  Inside collections a
tab cannot stand where a line has to be moved in, unless nothing else is on the line. -/
def gapWithin : Nat → Reader Unit
  | 0 => pure ()
  | steps + 1 => do
    let s ← get
    match s.cursor.rest with
    | ' ' :: _ =>
      move (Cursor.pass true 1)
      gapWithin steps
    | '\t' :: _ =>
      if !s.indents.isEmpty && s.cursor.fresh && s.cursor.column < s.indent then
        let _ ← blanks
        if !startsBreak (← cursor).rest then fail
      else move (Cursor.pass true 1)
      gapWithin steps
    | '\n' :: _ =>
      lineBreak
      gapWithin steps
    | '#' :: _ =>
      move Cursor.passLine
      gapWithin steps
    | _ => pure ()

/-- Moves over blanks, comments and ends of lines. -/
def gap : Reader Unit := do
  gapWithin ((← cursor).rest.length + 1)

/-- Moves over what has to follow a question mark: blanks other than tabs, comments and ends of
lines, in at most so many steps. -/
def keyGapWithin : Nat → Reader Unit
  | 0 => pure ()
  | steps + 1 => do
    match (← cursor).rest with
    | ' ' :: _ =>
      move (Cursor.pass true 1)
      keyGapWithin steps
    | '\n' :: _ =>
      lineBreak
      keyGapWithin steps
    | '#' :: _ =>
      move Cursor.passLine
      keyGapWithin steps
    | '\t' :: _ => fail
    | _ => pure ()

/-! ## Tokens -/

/-- Takes a mark that separates documents. -/
def mark (t : Token) : Reader Unit := do
  closeTo (-1)
  dropKey
  allowKey false
  move (Cursor.pass false 3)
  push t

/-- Takes the mark that ends a document, which is alone on its line. -/
def endMark : Reader Unit := do
  mark .documentEnd
  let _ ← blanks
  if !startsBreak (← cursor).rest then fail

/-- Takes a directive with its line. -/
def directive : Reader Unit := do
  closeTo (-1)
  dropKey
  allowKey false
  move (Cursor.pass false 1)
  let t ← takeChars readDirective?
  let _ ← blanks
  if !startsBreak (← cursor).rest then fail
  if !(← cursor).rest.isEmpty then move Cursor.passBreak
  push t

/-- How many brackets can be open. -/
def maxDepth : Nat := 255

/-- Takes an opening bracket. -/
def openBracket (t : Token) : Reader Unit := do
  noteKey
  moveIn
  if (← get).depth ≥ maxDepth then fail
  modify fun s =>
    { s with
      keys := .none :: s.keys, depth := s.depth + 1, keyAllowed := true,
      inTable := s.inTable || t = .openTable }
  move (Cursor.pass false 1)
  let _ ← blanks
  push t

/-- Closes the table that a colon between brackets has opened. -/
def closePair : Reader Unit := do
  if (← get).inPair then
    modify fun s => { s with inPair := false, inTable := false }
    push .closeTable

/-- Takes a closing bracket.  A colon right after it needs no blank. -/
def closeBracket (t : Token) : Reader Unit := do
  dropKey
  modify fun s =>
    if s.depth = 0 then s else { s with keys := s.keys.tail, depth := s.depth - 1 }
  allowKey false
  closePair
  move (Cursor.pass false 1)
  let _ ← blanks
  modify fun s => if s.depth = 0 then s else { s with adjacent := s.cursor.index }
  push t

/-- Takes a comma. -/
def comma : Reader Unit := do
  dropKey
  allowKey true
  closePair
  move (Cursor.pass false 1)
  let _ ← blanks
  push .comma

/-- Takes the dash before an item. -/
def item : Reader Unit := do
  let s ← get
  if s.depth ≠ 0 ∨ s.keyAllowed = false then fail
  move (Cursor.pass false 1)
  openAt s.cursor.column s.tokens.length .listStart
  let passed ← blanks
  let rest := (← cursor).rest
  if passed.contains '\t' && rest.head? = some '-' && startsBlank (rest.drop 1) then fail
  if rest.head?.any fun c => c = '\n' || isFlowSign c then moveIn
  dropKey
  allowKey true
  push .item

/-- Takes the question mark before a key. -/
def keyMark : Reader Unit := do
  let s ← get
  if s.depth = 0 then
    if !s.keyAllowed then fail
    openAt s.cursor.column s.tokens.length .tableStart
  else modify fun s => { s with inTable := true }
  dropKey
  allowKey (s.depth = 0)
  move (Cursor.pass false 1)
  if (← cursor).rest.isEmpty then fail
  keyGapWithin ((← cursor).rest.length + 1)
  push .key

/-- Takes the colon before a value.  It makes what may have been a key into one, and opens the table
that the key belongs to. -/
def valueMark : Reader Unit := do
  let start ← get
  let k ← currentKey
  let pair := 0 < start.depth && !start.inTable
  modify fun s => { s with inPair := pair }
  move (Cursor.pass false 1)
  if (← cursor).rest.head? = some '\t' then
    let passed ← blanks
    if !passed.contains ' ' && (← cursor).rest.head?.any isWordChar then fail
  if k.possible then
    insert k.place .key
    if pair then
      if k.start.line < start.cursor.line then fail
      insert k.place .openTable
    openAt k.start.column k.place .tableStart
    moveIn
    setKey { k with possible := false }
    allowKey false
  else
    if pair then push .openTable
    if start.depth = 0 then
      if !start.keyAllowed then fail
      openAt start.cursor.column (← get).tokens.length .tableStart
    moveIn
    allowKey (start.depth = 0)
  push .value

/-- Takes the name of a node, or that of an earlier one. -/
def name (make : String → Token) : Reader Unit := do
  noteKey
  allowKey false
  move (Cursor.pass false 1)
  push (make (← takeChars readName?))

/-- Takes a tag. -/
def tag : Reader Unit := do
  noteKey
  allowKey false
  let (handle, suffix) ← takeChars (readTag? (0 < (← get).depth))
  push (.tag handle suffix)

/-- Takes a scalar that is a block of lines. -/
def block : Reader Unit := do
  noteKey
  allowKey true
  forgetExtra
  let text ← take (block? (← get).indent)
  push (.scalar false (String.ofList text))

/-- Takes a scalar in quotes.  A colon right after it needs no blank. -/
def quoted : Reader Unit := do
  noteKey
  allowKey false
  let text ← take (quoted? (0 < (← get).depth) (← get).indent)
  gap
  modify fun s => { s with adjacent := s.cursor.index }
  push (.scalar false (String.ofList text))

/-- Takes a plain scalar. -/
def plain : Reader Unit := do
  noteKey
  allowKey false
  forgetExtra
  let text ← take (plain? (0 < (← get).depth) (← get).indent)
  if (← cursor).fresh then allowKey true
  push (.scalar true (String.ofList text))

/-- Takes what starts with a character and is neither a mark nor a directive. -/
def piece (c : Char) (rest : List Char) : Reader Unit := do
  let s ← get
  let inFlow := 0 < s.depth
  match c with
  | '[' => openBracket .openList
  | '\x7b' => openBracket .openTable
  | ']' => closeBracket .closeList
  | '\x7d' => closeBracket .closeTable
  | ',' => comma
  | '*' => name .earlier
  | '&' => name .anchor
  | '!' => tag
  | '"' => quoted
  | '%' | '@' => fail
  | '-' => if startsBlank rest then item else plain
  | '?' => if startsBlank rest then keyMark else plain
  | ':' =>
    let isValue := startsBlank rest ||
      (inFlow && (startsFlow rest || s.cursor.index = s.adjacent))
    if isValue then valueMark else plain
  | '|' | '>' => if inFlow then plain else block
  | c => if c = Text.apostrophe then quoted else if c.toNat = 96 then fail else plain

/-- Takes what comes next after a gap; says whether there is anything. -/
def next : Reader Bool := do
  gap
  dropStaleKeys
  closeTo (← cursor).column
  let s ← get
  match s.cursor.rest with
  | [] => return false
  | c :: rest =>
    if s.cursor.column = 0 ∧ c = '%' then directive
    else if s.cursor.isAtMark '-' then mark .documentStart
    else if s.cursor.isAtMark '.' then endMark
    else if s.cursor.column < s.indent then fail
    else piece c rest
    return true

/-- Ends the text: what is open in lines is closed, and no key can be missing. -/
def finish : Reader Unit := do
  let s ← get
  if s.keys.any fun k => k.possible && k.required then fail
  closeTo (-1)

/-- Takes everything up to the end of the text, in at most so many steps. -/
def allWithin : Nat → Reader Unit
  | 0 => fail
  | steps + 1 => do
    if ← next then allWithin steps else finish

end Reader

/-- Characters in which every line ends in a line feed alone, up to the first NUL. -/
def plainLines : List Char → List Char
  | '\r' :: '\n' :: rest => '\n' :: plainLines rest
  | '\r' :: rest => '\n' :: plainLines rest
  | c :: rest => if c.toNat = 0 then [] else c :: plainLines rest
  | [] => []

/-- The tokens of a text; `none` if it is not made of tokens. -/
def tokens? (s : String) : Option (List Token) :=
  let cs := plainLines s.toList
  (Reader.allWithin (cs.length + 1) (.start cs)).map fun (_, last) => last.tokens.reverse

end SteadyTask.Yaml
