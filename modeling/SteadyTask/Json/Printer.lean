import SteadyTask.Decimal.Notation
import SteadyTask.Json.Value

/-!
# Writing JSON

The compact form has no blanks at all; the pretty form puts every item on a line of its own,
indented by two spaces a level.  Quotes, backslashes and control characters are escaped, and
nothing else is.  A number that is not finite is written `null`.
-/

namespace SteadyTask.Json

/-- One hexadecimal digit, in lower case. -/
def hexDigit (n : Nat) : Char :=
  if n < 10 then Char.ofNat ('0'.toNat + n) else Char.ofNat ('a'.toNat + (n - 10))

/-- How a character stands in a quoted text. -/
def escapeChar (c : Char) : List Char :=
  if c = '"' then ['\\', '"']
  else if c = '\\' then ['\\', '\\']
  else if c = '\n' then ['\\', 'n']
  else if c = '\r' then ['\\', 'r']
  else if c = '\t' then ['\\', 't']
  else if c.toNat = 8 then ['\\', 'b']
  else if c.toNat = 12 then ['\\', 'f']
  else if c.toNat < 32 then ['\\', 'u', '0', '0', hexDigit (c.toNat / 16), hexDigit (c.toNat % 16)]
  else [c]

/-- The characters of a text between quotes. -/
def quoteChars (cs : List Char) : List Char :=
  '"' :: (cs.flatMap escapeChar ++ ['"'])

/-- A text between quotes. -/
def quote (s : String) : String :=
  String.ofList (quoteChars s.toList)

/-- How a number is written. -/
def floatText (x : Float) : String :=
  (Decimal.jsonText? x).getD "null"

mutual

/-- The compact form of a value, as a list of characters. -/
def compactChars : Value → List Char
  | .null => "null".toList
  | .bool true => "true".toList
  | .bool false => "false".toList
  | .int n => (toString n).toList
  | .float x => (floatText x).toList
  | .str s => quoteChars s.toList
  | .arr items => '[' :: (compactItems items ++ [']'])
  | .obj fields => '\x7b' :: (compactFields fields ++ ['\x7d'])

/-- Items in compact form, with commas between them. -/
def compactItems : List Value → List Char
  | [] => []
  | [v] => compactChars v
  | v :: w :: rest => compactChars v ++ ',' :: compactItems (w :: rest)

/-- Fields in compact form, with commas between them. -/
def compactFields : List (String × Value) → List Char
  | [] => []
  | [(name, v)] => quoteChars name.toList ++ ':' :: compactChars v
  | (name, v) :: field :: rest =>
    quoteChars name.toList ++ ':' :: (compactChars v ++ ',' :: compactFields (field :: rest))

end

/-- The compact form of a value. -/
def compact (v : Value) : String :=
  String.ofList (compactChars v)

/-- A line break and the indentation of a level. -/
def newLine (level : Nat) : List Char :=
  '\n' :: List.replicate (2 * level) ' '

mutual

/-- The pretty form of a value that stands at a level. -/
def prettyChars (level : Nat) : Value → List Char
  | .arr [] => "[]".toList
  | .arr (v :: rest) =>
    '[' ::
      (newLine (level + 1) ++ (prettyItems (level + 1) (v :: rest) ++ (newLine level ++ [']'])))
  | .obj [] => ['\x7b', '\x7d']
  | .obj (field :: rest) =>
    '\x7b' :: (newLine (level + 1) ++
      (prettyFields (level + 1) (field :: rest) ++ (newLine level ++ ['\x7d'])))
  | .null => compactChars .null
  | .bool b => compactChars (.bool b)
  | .int n => compactChars (.int n)
  | .float x => compactChars (.float x)
  | .str s => compactChars (.str s)

/-- Items in pretty form, each on its line. -/
def prettyItems (level : Nat) : List Value → List Char
  | [] => []
  | [v] => prettyChars level v
  | v :: w :: rest =>
    prettyChars level v ++ (',' :: (newLine level ++ prettyItems level (w :: rest)))

/-- Fields in pretty form, each on its line. -/
def prettyFields (level : Nat) : List (String × Value) → List Char
  | [] => []
  | [(name, v)] => quoteChars name.toList ++ (':' :: ' ' :: prettyChars level v)
  | (name, v) :: field :: rest =>
    quoteChars name.toList ++ (':' :: ' ' :: (prettyChars level v ++
      (',' :: (newLine level ++ prettyFields level (field :: rest)))))

end

/-- The pretty form of a value. -/
def pretty (v : Value) : String :=
  String.ofList (prettyChars 0 v)

end SteadyTask.Json
