import SteadyTask.Config.Tree
import SteadyTask.Text.Reader

/-!
# RON

A notation with structures: `Name(field: value)`, whose name can be left out, beside maps, lists,
tuples, optional values, and comments, which can be nested.  A structure is a table, and so is a
map if all its keys are texts or characters; a tuple is a list.
-/

namespace SteadyTask.Ron

open Config (Tree)
open Text (Reader)
open Text.Reader

/-! ## Values -/

/-- What is written. -/
inductive Value where
  /-- No value, or a structure without fields that is only named. -/
  | nothing
  /-- A value that could have been left out. -/
  | given (v : Value)
  | flag (b : Bool)
  | whole (n : Int)
  | real (x : Float)
  | char (c : Char)
  | text (s : String)
  | list (items : List Value)
  | map (entries : List (Value × Value))
  deriving Repr, Inhabited

/-- The name of the entry that a key makes, and whether the key is a text, which counts more than
a character. -/
def Value.name? : Value → Option (Bool × String)
  | .char c => some (false, String.ofList [c])
  | .text s => some (true, s)
  | _ => none

mutual

/-- A value as a tree. -/
def Value.tree? : Value → Option Tree
  | .nothing => some .absent
  | .given v => v.tree?
  | .flag b => some (.flag b)
  | .whole n => some (.whole n)
  | .real x => some (.real x)
  | .char c => some (.text (String.ofList [c]))
  | .text s => some (.text s)
  | .list items => do return .list (← itemTrees? items)
  | .map entries => do
    let named ← entryTrees? entries
    let (texts, chars) := named.partition fun entry => entry.1.1
    return Tree.ofEntries (← (chars ++ texts).mapM fun (name, t) => t.map fun t => (name.2, t))

/-- Values as trees. -/
def itemTrees? : List Value → Option (List Tree)
  | [] => some []
  | v :: rest => do return (← v.tree?) :: (← itemTrees? rest)

/-- Entries under their names, of which the last one of each counts; a value that is not written
over later has to be a tree. -/
def entryTrees? : List (Value × Value) → Option (List ((Bool × String) × Option Tree))
  | [] => some []
  | (k, v) :: rest => do
    let name ← k.name?
    let others ← entryTrees? rest
    return if others.any fun entry => entry.1 = name then others else (name, v.tree?) :: others

end

/-! ## Blanks and comments -/

/-- Whether a character separates what is written. -/
def isSpace (c : Char) : Bool :=
  c = ' ' || c = '\t' || c = '\n' || c = '\r'

/-- The characters after comments that are open, so many of them in one another. -/
def afterComments? : Nat → List Char → Option (List Char)
  | 0, cs => some cs
  | depth + 1, '*' :: '/' :: rest => afterComments? depth rest
  | depth + 1, '/' :: '*' :: rest => afterComments? (depth + 2) rest
  | depth + 1, _ :: rest => afterComments? (depth + 1) rest
  | _ + 1, [] => none
termination_by _ cs => cs.length

/-- Drops blanks and comments, in at most so many steps. -/
def gapWithin : Nat → List Char → Option (List Char)
  | 0, cs => some cs
  | steps + 1, cs =>
    match cs.dropWhile isSpace with
    | '/' :: '/' :: rest => gapWithin steps (rest.dropWhile (· ≠ '\n'))
    | '/' :: '*' :: rest => (afterComments? 1 rest).bind (gapWithin steps)
    | rest => some rest

/-- Drops blanks and comments. -/
def gap : Reader Unit := fun cs =>
  (gapWithin (cs.length + 1) cs).map fun rest => ((), rest)

/-! ## Names -/

/-- Whether a character can stand in a name. -/
def isNameChar (c : Char) : Bool :=
  c.isAlphanum || c = '_'

/-- Whether a character can start a name. -/
def isNameStart (c : Char) : Bool :=
  c.isAlpha || c = '_'

/-- Whether a character can stand in a name that is marked as one. -/
def isRawChar (c : Char) : Bool :=
  isNameChar c || c = '.' || c = '+' || c = '-'

/-- Reads a name.  What starts a text without escapes is none, and a name with points, plus or minus
signs has to be marked by `r#`. -/
def readName? : List Char → Option (List Char × List Char)
  | 'r' :: '#' :: rest =>
    let name := rest.takeWhile isRawChar
    if name.isEmpty then none else some (name, rest.drop name.length)
  | c :: rest =>
    if isNameStart c && !(c = 'r' && rest.head?.all (· = '"')) then
      let name := (c :: rest).takeWhile isNameChar
      let after := (c :: rest).drop name.length
      if after.head?.any isRawChar then none else some (name, after)
    else none
  | [] => none

/-- Takes a name. -/
def name : Reader String :=
  textOf readName?

/-- Takes a word if it comes next and no longer one; says whether it did. -/
def acceptWord (word : String) : Reader Bool := fun cs =>
  match Text.afterStart? word.toList cs with
  | some rest => some (if rest.head?.any isNameChar then (false, cs) else (true, rest))
  | none => some (false, cs)

/-! ## Texts -/

/-- Reads what a backslash before some characters comes to. -/
def readEscape? : List Char → Option (Char × List Char)
  | '"' :: rest => some ('"', rest)
  | '\\' :: rest => some ('\\', rest)
  | 'n' :: rest => some ('\n', rest)
  | 'r' :: rest => some ('\r', rest)
  | 't' :: rest => some ('\t', rest)
  | '0' :: rest => some (Char.ofNat 0, rest)
  | 'x' :: rest => (Text.codedChar? 2 rest).map fun c => (c, rest.drop 2)
  | 'u' :: '\x7b' :: rest =>
    let digits := (rest.takeWhile (· ≠ '\x7d')).take 6
    if digits.isEmpty ∨ (rest.drop digits.length).head? ≠ some '\x7d' then none
    else (Text.codedChar? digits.length digits).map fun c => (c, rest.drop (digits.length + 1))
  | c :: rest => if c = Text.apostrophe then some (c, rest) else none
  | [] => none

/-- Reads a text up to its closing quote, in at most so many steps. -/
def readQuoted? : Nat → List Char → Option (List Char × List Char)
  | 0, _ => none
  | _ + 1, [] => none
  | steps + 1, c :: rest =>
    if c = '"' then some ([], rest)
    else do
      let (c, rest) ← if c = '\\' then readEscape? rest else some (c, rest)
      let (taken, after) ← readQuoted? steps rest
      return (c :: taken, after)

/-- Reads a text without escapes up to its end, a quote and as many signs as before the text. -/
def readRaw? (stop : List Char) : List Char → Option (List Char × List Char)
  | [] => none
  | c :: rest =>
    match Text.afterStart? stop (c :: rest) with
    | some after => some ([], after)
    | none => (readRaw? stop rest).map fun (taken, after) => (c :: taken, after)

/-- Takes a text in quotes. -/
def quoted : Reader String := textOf fun cs =>
  readQuoted? (cs.length + 1) (cs.drop 1)

/-- Takes a text without escapes. -/
def raw : Reader String := textOf fun cs =>
  let signs := (cs.drop 1).takeWhile (· = '#')
  match cs.drop (signs.length + 1) with
  | '"' :: rest => readRaw? ('"' :: signs) rest
  | _ => none

/-- Takes a character in single quotes. -/
def quotedChar : Reader Char := fun cs => do
  let (c, rest) ←
    match cs.drop 1 with
    | '\\' :: rest => readEscape? rest
    | c :: rest => if c = Text.apostrophe then none else some (c, rest)
    | [] => none
  if rest.head? = some Text.apostrophe then return (c, rest.drop 1) else none

/-! ## Numbers -/

/-- Whether a character can be a digit, or stand between digits. -/
def isDigitChar (c : Char) : Bool :=
  Text.isHexDigit c || c = '_'

/-- Whether a character can stand in a binary number. -/
def isRealChar (c : Char) : Bool :=
  c.isDigit || "eE.+-_".toList.contains c

/-- The number that digits to a base write; other characters are no digits of it, except for an
underscore behind one. -/
def based? (base : Nat) (cs : List Char) : Option Nat :=
  if cs.isEmpty || cs.head? = some '_' then none
  else (cs.filter (· ≠ '_')).foldlM (fun n c =>
    ((Text.hexNumber? [c]).filter (· < base)).map fun d => n * base + d) 0

/-- Reads the size of a whole number. -/
def readSize? (cs : List Char) : Option (Nat × List Char) :=
  let (base, digits) :=
    match cs with
    | '0' :: 'x' :: rest => (16, rest)
    | '0' :: 'b' :: rest => (2, rest)
    | '0' :: 'o' :: rest => (8, rest)
    | cs => (10, cs)
  let run := digits.takeWhile isDigitChar
  (based? base run).map fun n => (n, digits.drop run.length)

/-- Reads a whole number.  With a sign it has 64 bits with the sign, and without one 64 bits. -/
def readWhole? : List Char → Option (Int × List Char)
  | '+' :: rest => ((readSize? rest).filter (·.1 < Nat.pow 2 63)).map fun (n, rest) => (n, rest)
  | '-' :: rest => ((readSize? rest).filter (·.1 ≤ Nat.pow 2 63)).map fun (n, rest) => (-n, rest)
  | cs => ((readSize? cs).filter (·.1 < Nat.pow 2 64)).map fun (n, rest) => (n, rest)

/-- Whether a binary number comes next, and not the start of a whole one. -/
def startsReal (cs : List Char) : Bool :=
  let body := if cs.head?.any fun c => c = '+' || c = '-' then cs.drop 1 else cs
  (body.takeWhile isDigitChar).length < (body.takeWhile isRealChar).length

/-- Takes a binary number.  One that is not finite is a word. -/
def real : Reader Float := do
  if ← acceptWord "+inf" then return 1.0 / 0.0
  if (← acceptWord "+NaN") || (← acceptWord "-NaN") then return 0.0 / 0.0
  need (Decimal.readFloat? (← takeWhile isRealChar))

/-- Takes a number.  What is no whole number of its size is a binary one, and so is a whole number
beyond 63 bits. -/
def number : Reader Value := do
  let cs ← rest
  match if startsReal cs then none else readWhole? cs with
  | some (n, after) =>
    drop (cs.length - after.length)
    return if n < Nat.pow 2 63 then .whole n else .real (Float.ofInt n)
  | none => return .real (← real)

/-! ## Values in one another -/

/-- Takes a field of a structure. -/
def field (part : Reader Value) : Reader (Value × Value) := do
  let name ← name
  gap
  expect ":"
  gap
  return (.text name, ← part)

/-- Takes an entry of a map. -/
def entry (part : Reader Value) : Reader (Value × Value) := do
  let key ← part
  gap
  expect ":"
  gap
  return (key, ← part)

/-- Whether the first thing in round brackets is a field. -/
def startsWithField : Reader Bool := fun cs =>
  let isField := (do gap; let _ ← name; gap; expect ":" : Reader Unit) cs
  some (isField.isSome, cs)

/-- Takes the fields of a structure or the items of a tuple, if a round bracket comes next.  If none
comes, there is no value. -/
def inBrackets (canOpen : Bool) (part : Reader Value) : Reader Value := do
  if ← accept "(" then
    if !canOpen then fail
    else if ← startsWithField then return .map (← items gap (field part) ")")
    else return .list (← items gap part ")")
  else return .nothing

/-- Takes what `Some` holds: a value in brackets, or, if the document asks for that, one without. -/
def held (bare : Bool) (inner : Reader Value) : Reader Value := do
  gap
  if ← accept "(" then
    gap
    let v ← inner
    gap
    if ← accept "," then gap
    expect ")"
    return .given v
  else if bare then return .given (← inner)
  else fail

/-- Takes a value, given how the value in `Some` and the parts of all other values are taken, and
whether there can be any. -/
def valueOver (bare canOpen : Bool) (inner part : Reader Value) : Reader Value := do
  if ← acceptWord "true" then return .flag true
  if ← acceptWord "false" then return .flag false
  if ← acceptWord "Some" then return ← held bare inner
  if ← acceptWord "None" then return .nothing
  if ← accept "()" then return .nothing
  if ← acceptWord "inf" then return .real (1.0 / 0.0)
  if ← acceptWord "-inf" then return .real (-1.0 / 0.0)
  if ← acceptWord "NaN" then return .real (0.0 / 0.0)
  if (readName? (← rest)).isSome then
    let _ ← name
    gap
    return ← inBrackets canOpen part
  match ← peek with
  | none => fail
  | some c =>
    if c = '(' then inBrackets canOpen part
    else if c = '[' ∧ canOpen then
      drop 1
      return .list (← items gap part "]")
    else if c = '\x7b' ∧ canOpen then
      drop 1
      return .map (← items gap (entry part) "\x7d")
    else if c = '"' then return .text (← quoted)
    else if c = 'r' then return .text (← raw)
    else if c = Text.apostrophe then return .char (← quotedChar)
    else if c.isDigit || c = '+' || c = '-' || c = '.' then number
    else fail

/-- Takes a value with a bound on what is nested in it: `Some` counts as one level, and everything
else as two, one for itself and one for its parts. -/
def valueWithin (bare : Bool) : Nat → Reader Value
  | 0 => valueOver bare false fail fail
  | 1 => valueOver bare true (valueWithin bare 0) fail
  | levels + 2 => valueOver bare true (valueWithin bare (levels + 1)) (valueWithin bare levels)

/-- How many levels of values can be nested. -/
def maxLevels : Nat := 128

/-! ## Documents -/

/-- The extensions that a document can ask for. -/
def extensions : List String :=
  ["unwrap_newtypes", "implicit_some", "unwrap_variant_newtypes"]

/-- Takes texts with gaps behind them. -/
def expectAll : List String → Reader Unit
  | [] => pure ()
  | s :: rest => do
    expect s
    gap
    expectAll rest

/-- Takes the names of extensions, at most so many, with commas between them; one may follow the
last. -/
def extensionNames : Nat → Reader (List String)
  | 0 => fail
  | steps + 1 => do
    let s ← name
    if !extensions.contains s then fail
    gap
    let hasComma ← accept ","
    gap
    let hasNext := (← peek).any isNameChar
    if hasComma && hasNext then return s :: (← extensionNames steps)
    else if hasNext then fail
    else return [s]

/-- Takes what a document asks for before its value, in at most so many steps. -/
def attributes : Nat → Reader (List String)
  | 0 => fail
  | steps + 1 => do
    gap
    if (← peek) = some '#' then
      expectAll ["#", "!", "[", "enable", "("]
      let names ← extensionNames ((← rest).length + 1)
      expectAll [")", "]"]
      return names ++ (← attributes steps)
    else return []

/-- Takes a value with nothing but blanks and comments around it. -/
def document : Reader Value := do
  let asked ← attributes ((← rest).length + 1)
  let v ← valueWithin (asked.contains "implicit_some") maxLevels
  gap
  atEnd
  return v

/-- Reads a value; `none` if the text is none. -/
def parse? (s : String) : Option Tree :=
  (document s.toList).bind fun (v, _) => v.tree?

end SteadyTask.Ron
