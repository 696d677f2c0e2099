import SteadyTask.Text.Reader
import SteadyTask.Yaml.Cursor

/-!
# Tokens of YAML

What a YAML text is made of once lines and columns no longer count: scalars, what stands before
nodes, and signs that open, separate and close collections, whether brackets or columns say so.
This module has the tokens, and reads those that stand before nodes and documents.
-/

namespace SteadyTask.Yaml

/-- A piece of a document. -/
inductive Token where
  /-- The directive that tells the version of the format. -/
  | version
  /-- A directive that tells what a handle stands for in tags. -/
  | handle (handle meaning : String)
  | documentStart
  | documentEnd
  /-- The start of a list in lines. -/
  | listStart
  /-- The start of a table in lines. -/
  | tableStart
  /-- The end of a collection in lines. -/
  | linesEnd
  | openList
  | closeList
  | openTable
  | closeTable
  /-- The dash before an item. -/
  | item
  | comma
  /-- What comes before a key. -/
  | key
  /-- What comes before the value of a key. -/
  | value
  /-- The name of an earlier node, in the place of a node. -/
  | earlier (name : String)
  /-- The name of the node that follows. -/
  | anchor (name : String)
  /-- The type of the node that follows. -/
  | tag (handle suffix : String)
  | scalar (isPlain : Bool) (text : String)
  deriving Repr, DecidableEq, Inhabited

/-! ## Names of nodes -/

/-- Whether a character can stand in the name of a node. -/
def isNameChar (c : Char) : Bool :=
  !isGapChar c && !isFlowSign c && c.toNat ≠ 0xFEFF

/-- Reads the name of a node. -/
def readName? (cs : List Char) : Option (String × List Char) :=
  let name := cs.takeWhile isNameChar
  if name.isEmpty then none else some (String.ofList name, cs.drop name.length)

/-! ## Tags -/

/-- Whether a character can stand in a tag between angle brackets. -/
def isUriChar (c : Char) : Bool :=
  c.isAlphanum || c = Text.apostrophe || "-#;/?:@&=+$,_.!~*()[]%".toList.contains c

/-- Whether a character can stand in the last part of a tag. -/
def isTagChar (c : Char) : Bool :=
  isUriChar c && !isFlowSign c && c ≠ '!'

/-- The number that a percent sign and two digits write. -/
def readByte? : List Char → Option (Nat × List Char)
  | '%' :: a :: b :: rest => (Text.hexNumber? [a, b]).map fun n => (n, rest)
  | _ => none

/-- Reads a character that is written as numbers, in base 256, of one or two digits; no longer
number is a character. -/
def readCoded? (cs : List Char) : Option (Char × List Char) := do
  let (first, rest) ← readByte? cs
  if first < 0x80 then return (Char.ofNat first, rest)
  else
    let (second, rest) ← readByte? rest
    let code := first * 256 + second
    if 0xC0 ≤ first ∧ first < 0xE0 ∧ 0x80 ≤ second ∧ second < 0xC0 ∧ code.isValidChar then
      return (Char.ofNat code, rest)
    else none

/-- Reads the characters that satisfy a test, in at most so many steps. -/
def readRun? (test : Char → Bool) : Nat → List Char → Option (List Char × List Char)
  | 0, cs => some ([], cs)
  | _ + 1, [] => some ([], [])
  | steps + 1, c :: rest =>
    if !test c then some ([], c :: rest)
    else do
      let (c, rest) ← if c = '%' then readCoded? (c :: rest) else pure (c, rest)
      let (more, rest) ← readRun? test steps rest
      return (c :: more, rest)

/-- Reads an exclamation mark, the word after it, and the mark that may end the word. -/
def readHandle? : List Char → Option (List Char × List Char)
  | '!' :: rest =>
    let word := rest.takeWhile isWordChar
    match rest.drop word.length with
    | '!' :: rest => some ('!' :: word ++ ['!'], rest)
    | rest => some ('!' :: word, rest)
  | _ => none

/-- Whether what starts a tag is a handle of its own, and not a part of the tag. -/
def isHandle (cs : List Char) : Bool :=
  2 ≤ cs.length && cs.getLast? = some '!'

/-- Reads a tag: its handle and the rest of it. -/
def readTag? (inFlow : Bool) (cs : List Char) : Option ((String × String) × List Char) := do
  let ((handle, suffix), rest) ←
    match cs with
    | '!' :: '<' :: rest => do
      let (uri, rest) ← readRun? isUriChar rest.length rest
      if rest.head? = some '>' then pure (([], uri), rest.drop 1) else none
    | cs => do
      let (head, rest) ← readHandle? cs
      let (run, rest) ← readRun? isTagChar rest.length rest
      if isHandle head then
        if run.isEmpty then none else pure ((head, run), rest)
      else if head.length = 1 ∧ run.isEmpty then pure (([], ['!']), rest)
      else pure ((['!'], head.drop 1 ++ run), rest)
  if startsBlank rest || (inFlow && startsFlow rest) then
    return ((String.ofList handle, String.ofList suffix), rest)
  else none

/-! ## Directives -/

/-- Reads a part of a version: at most nine digits. -/
def readVersionPart? (cs : List Char) : Option (List Char) :=
  let digits := cs.takeWhile Char.isDigit
  if digits.isEmpty ∨ 9 < digits.length then none else some (cs.drop digits.length)

/-- Reads what a handle stands for. -/
def readMeaning? (cs : List Char) : Option (List Char × List Char) :=
  match cs with
  | '!' :: rest => do
    let (run, rest) ← readRun? isUriChar rest.length rest
    return ('!' :: run, rest)
  | c :: _ => if isTagChar c then readRun? isUriChar cs.length cs else none
  | [] => none

/-- Reads a directive, whose percent sign is already taken, up to blanks, a comment or the end of
its line.  One that is not known counts as a handle without a name. -/
def readDirective? (cs : List Char) : Option (Token × List Char) := do
  let name := cs.takeWhile isWordChar
  let rest := cs.drop name.length
  if name.isEmpty ∨ !startsBlank rest then none
  else
    match String.ofList name with
    | "YAML" =>
      let rest ← readVersionPart? (rest.dropWhile isSpace)
      if rest.head? ≠ some '.' then none
      else return (.version, ← readVersionPart? (rest.drop 1))
    | "TAG" =>
      let (handle, rest) ← readHandle? (rest.dropWhile isSpace)
      if handle ≠ ['!'] ∧ !isHandle handle then none
      else
        let (meaning, rest) ← readMeaning? (rest.dropWhile isSpace)
        if startsBlank rest then
          return (.handle (String.ofList handle) (String.ofList meaning), rest)
        else none
    | _ => return (.handle "" "", rest.dropWhile (· ≠ '\n'))

end SteadyTask.Yaml
