import SteadyTask.Json.Number
import SteadyTask.Json.Value

/-!
# Reading JSON

A reader takes what it reads from the front of the characters and leaves the rest, so the first
fault from the left is the one reported.  Readers of values, of typed fields and of values to be
passed over are built from the same steps: the next token, the next item of an array, the next
field of an object.

Arrays and objects may be nested 127 deep; values that are passed over may be nested at will.
-/

namespace SteadyTask.Json

/-- Takes a value from the front of some characters. -/
abbrev Reader (α : Type) := StateT (List Char) (Except Fault) α

/-- How deep arrays and objects may be nested. -/
def maxDepth : Nat := 127

/-- Whether a character may stand between tokens. -/
def isSpace (c : Char) : Bool :=
  c = ' ' || c = '\n' || c = '\t' || c = '\r'

namespace Reader

/-- The first character of the next token, which stays in place. -/
def token : Reader (Option Char) := fun cs =>
  let cs := cs.dropWhile isSpace
  .ok (cs.head?, cs)

/-- Drops one character. -/
def skip : Reader Unit := fun cs => .ok ((), cs.drop 1)

/-- Takes the rest of a word whose first letter is already taken. -/
def word : List Char → Reader Unit
  | [] => pure ()
  | w :: ws => fun cs =>
    match cs with
    | [] => .error .endInValue
    | c :: rest => if c = w then word ws rest else .error .expectedWord

/-- Takes a number whose sign is already taken. -/
def number (positive : Bool) : Reader Number := fun cs =>
  readNumber positive cs

end Reader

/-! ## Quoted texts -/

/-- The value of a hexadecimal digit. -/
def hexValue? (c : Char) : Option Nat :=
  if '0' ≤ c ∧ c ≤ '9' then some (c.toNat - '0'.toNat)
  else if 'a' ≤ c ∧ c ≤ 'f' then some (c.toNat - 'a'.toNat + 10)
  else if 'A' ≤ c ∧ c ≤ 'F' then some (c.toNat - 'A'.toNat + 10)
  else none

/-- Size of characters in bytes of UTF-8. -/
def byteCount (cs : List Char) : Nat :=
  cs.foldl (fun n c => n + c.utf8Size) 0

/-- The unit that four hexadecimal digits write.  With fewer than four bytes left the text has
ended inside its quotes. -/
def fourHexDigits (cs : List Char) : Except Fault Nat :=
  match cs with
  | a :: b :: c :: d :: _ =>
    match hexValue? a, hexValue? b, hexValue? c, hexValue? d with
    | some a, some b, some c, some d => .ok (a * 4096 + b * 256 + c * 16 + d)
    | _, _, _, _ => .error .invalidEscape
  | few => if byteCount few < 4 then .error .endInString else .error .invalidEscape

/-- Whether a unit is the first of a surrogate pair. -/
def isLeading (unit : Nat) : Bool := 0xD800 ≤ unit && unit ≤ 0xDBFF

/-- Whether a unit is the second of a surrogate pair. -/
def isTrailing (unit : Nat) : Bool := 0xDC00 ≤ unit && unit ≤ 0xDFFF

/-- The character of a surrogate pair. -/
def pairChar (leading trailing : Nat) : Char :=
  Char.ofNat ((leading - 0xD800) * 1024 + (trailing - 0xDC00) + 0x10000)

/-- Reads what follows `\u`: the character and how many characters write it. -/
def readUnit (cs : List Char) : Except Fault (Char × Nat) :=
  match fourHexDigits cs with
  | .error e => .error e
  | .ok unit =>
    if isTrailing unit then .error .loneSurrogate
    else if !isLeading unit then .ok (Char.ofNat unit, 4)
    else
      match cs.drop 4 with
      | [] => .error .endInString
      | '\\' :: [] => .error .endInString
      | '\\' :: 'u' :: rest =>
        match fourHexDigits rest with
        | .error e => .error e
        | .ok second =>
          if isTrailing second then .ok (pairChar unit second, 10) else .error .loneSurrogate
      | _ => .error .unfinishedPair

/-- Reads what follows a backslash: the character and how many characters write it. -/
def readEscape (cs : List Char) : Except Fault (Char × Nat) :=
  match cs with
  | [] => .error .endInString
  | c :: rest =>
    if c = '"' ∨ c = '\\' ∨ c = '/' then .ok (c, 1)
    else if c = 'b' then .ok (Char.ofNat 8, 1)
    else if c = 'f' then .ok (Char.ofNat 12, 1)
    else if c = 'n' then .ok ('\n', 1)
    else if c = 'r' then .ok ('\r', 1)
    else if c = 't' then .ok ('\t', 1)
    else if c = 'u' then (readUnit rest).map fun (d, used) => (d, used + 1)
    else .error .invalidEscape

/-- Reads a text up to its closing quote. -/
def readText (cs : List Char) : Except Fault (List Char × List Char) :=
  match cs with
  | [] => .error .endInString
  | c :: rest =>
    if c = '"' then .ok ([], rest)
    else if c = '\\' then
      match readEscape rest with
      | .error e => .error e
      | .ok (d, used) => (readText (rest.drop used)).map fun (ds, after) => (d :: ds, after)
    else if c.toNat < 32 then .error .controlCharacter
    else (readText rest).map fun (ds, after) => (c :: ds, after)
termination_by cs.length
decreasing_by all_goals (simp only [List.length_drop, List.length_cons]; omega)

/-- How many characters an escape takes up that is passed over: pairs are not looked at. -/
def passEscape (cs : List Char) : Except Fault Nat :=
  match cs with
  | [] => .error .endInString
  | c :: rest =>
    if c = 'u' then (fourHexDigits rest).map fun _ => 5
    else if c ∈ ['"', '\\', '/', 'b', 'f', 'n', 'r', 't'] then .ok 1
    else .error .invalidEscape

/-- Passes over a text up to its closing quote. -/
def passText (cs : List Char) : Except Fault (List Char) :=
  match cs with
  | [] => .error .endInString
  | c :: rest =>
    if c = '"' then .ok rest
    else if c = '\\' then
      match passEscape rest with
      | .error e => .error e
      | .ok used => passText (rest.drop used)
    else if c.toNat < 32 then .error .controlCharacter
    else passText rest
termination_by cs.length
decreasing_by all_goals (simp only [List.length_drop, List.length_cons]; omega)

namespace Reader

/-- Takes a text whose opening quote is already taken. -/
def text : Reader String := fun cs =>
  (readText cs).map fun (ds, rest) => (String.ofList ds, rest)

/-! ## Arrays and objects -/

/-- Whether an array has another item; takes the comma before it. -/
def nextItem (first : Bool) : Reader Bool := do
  match ← token with
  | none => throw .endInList
  | some c =>
    if c = ']' then return false
    else if first then return true
    else if c = ',' then
      skip
      match ← token with
      | none => throw .endInValue
      | some d => if d = ']' then throw .trailingComma else return true
    else throw .expectedCommaInList

/-- Takes the bracket that closes an array. -/
def closeList : Reader Unit := do
  match ← token with
  | none => throw .endInList
  | some c =>
    if c = ']' then skip
    else if c = ',' then
      skip
      match ← token with
      | some ']' => throw .trailingComma
      | _ => throw .trailingCharacters
    else throw .trailingCharacters

/-- The name of an object's next field; takes the comma before it. -/
def nextField (first : Bool) : Reader (Option String) := do
  match ← token with
  | none => throw .endInObject
  | some c =>
    if c = '\x7d' then return none
    else if first then
      if c = '"' then skip; return some (← text) else throw .keyNotString
    else if c = ',' then
      skip
      match ← token with
      | none => throw .endInValue
      | some d =>
        if d = '"' then skip; return some (← text)
        else if d = '\x7d' then throw .trailingComma
        else throw .keyNotString
    else throw .expectedCommaInObject

/-- Takes the colon between a field's name and its value. -/
def colon : Reader Unit := do
  match ← token with
  | none => throw .endInObject
  | some c => if c = ':' then skip else throw .expectedColon

/-- Takes the brace that closes an object. -/
def closeObject : Reader Unit := do
  match ← token with
  | none => throw .endInObject
  | some c =>
    if c = '\x7d' then skip
    else if c = ',' then throw .trailingComma
    else throw .trailingCharacters

/-- Folds a reader over the items of an array, in at most so many steps. -/
def itemsWithin {σ : Type} (read : σ → Reader σ) : Nat → Bool → σ → Reader σ
  | 0, _, acc => pure acc
  | steps + 1, first, acc => do
    if ← nextItem first then itemsWithin read steps false (← read acc) else return acc

/-- Folds a reader over the items of an array whose bracket is already taken. -/
def items {σ : Type} (read : σ → Reader σ) (acc : σ) : Reader σ := fun cs =>
  itemsWithin read (cs.length + 1) true acc cs

/-- Folds a reader over the fields of an object, in at most so many steps.  The reader is given
the name and starts at the colon. -/
def fieldsWithin {σ : Type} (read : String → σ → Reader σ) : Nat → Bool → σ → Reader σ
  | 0, _, acc => pure acc
  | steps + 1, first, acc => do
    match ← nextField first with
    | some name => fieldsWithin read steps false (← read name acc)
    | none => return acc

/-- Folds a reader over the fields of an object whose brace is already taken. -/
def fields {σ : Type} (read : String → σ → Reader σ) (acc : σ) : Reader σ := fun cs =>
  fieldsWithin read (cs.length + 1) true acc cs

/-! ## Values -/

/-- The value of a number. -/
def numberValue : Number → Value
  | .whole n => .int n
  | .real x => .float x

/-- Takes a value that is neither an array nor an object, and starts with a given character. -/
def scalar (first : Char) : Reader Value := do
  if first = 'n' then skip; word "ull".toList; return .null
  else if first = 't' then skip; word "rue".toList; return .bool true
  else if first = 'f' then skip; word "alse".toList; return .bool false
  else if first = '"' then skip; return .str (← text)
  else if first = '-' then skip; return numberValue (← number false)
  else if Decimal.isDigit first then return numberValue (← number true)
  else throw .expectedValue

/-- Takes a value in which arrays and objects may be nested so deep. -/
def value : Nat → Reader Value
  | 0 => do
    match ← token with
    | none => throw .endInValue
    | some c => if c = '[' ∨ c = '\x7b' then throw .tooDeep else scalar c
  | depth + 1 => do
    match ← token with
    | none => throw .endInValue
    | some c =>
      if c = '[' then
        skip
        let reversed ← items (fun acc => do return (← value depth) :: acc) []
        closeList
        return .arr reversed.reverse
      else if c = '\x7b' then
        skip
        let sorted ← fields (fun name acc => do
          colon
          return setField name (← value depth) acc) []
        closeObject
        return .obj sorted
      else scalar c

/-! ## Passing over values -/

/-- Passes over an exponent, from after its `e`. -/
def passExponent : Reader Unit := fun cs =>
  let (digits, rest) := Decimal.leadingDigits (exponentSign cs).2
  if digits.isEmpty then .error .invalidNumber else .ok ((), rest)

/-- Passes over the exponent of a number if it has one. -/
def passScale : Reader Unit := fun cs =>
  match cs with
  | 'e' :: rest => passExponent rest
  | 'E' :: rest => passExponent rest
  | rest => .ok ((), rest)

/-- Passes over a number whose sign is already taken. -/
def passNumber : Reader Unit := fun cs =>
  let (digits, rest) := Decimal.leadingDigits cs
  match digits with
  | [] => .error .invalidNumber
  | '0' :: _ :: _ => .error .invalidNumber
  | _ =>
    match rest with
    | '.' :: rest =>
      let (digits, rest) := Decimal.leadingDigits rest
      if digits.isEmpty then .error .invalidNumber else passScale rest
    | rest => passScale rest

/-- Passes over a text whose opening quote is already taken. -/
def passQuoted : Reader Unit := fun cs =>
  (passText cs).map fun rest => ((), rest)

/-- Passes over a value that is neither an array nor an object, and starts with a given
character. -/
def passScalar (first : Char) : Reader Unit := do
  if first = 'n' then skip; word "ull".toList
  else if first = 't' then skip; word "rue".toList
  else if first = 'f' then skip; word "alse".toList
  else if first = '"' then skip; passQuoted
  else if first = '-' then skip; passNumber
  else if Decimal.isDigit first then passNumber
  else throw .expectedValue

/-- An open array or object. -/
inductive Frame where
  | list
  | object
  deriving Repr, DecidableEq

/-- Passes over the name of a field and its colon. -/
def passName : Reader Unit := do
  match ← token with
  | none => throw .endInObject
  | some c =>
    if c = '"' then
      skip
      passQuoted
      match ← token with
      | none => throw .endInObject
      | some d => if d = ':' then skip else throw .expectedColon
    else throw .keyNotString

/-- What comes next where values are passed over. -/
inductive Passing where
  /-- A value. -/
  | value
  /-- The first item or field of an array or object, or its end. -/
  | opened
  /-- A comma, or the end of the innermost array or object. -/
  | ended
  deriving Repr, DecidableEq

/-- Takes the closing bracket of a frame, or goes on to its next item or field. -/
def passFrame (frame : Frame) (opened : Bool) : Reader Bool := do
  match ← token, frame with
  | none, .list => throw .endInList
  | none, .object => throw .endInObject
  | some ']', .list => skip; return true
  | some '\x7d', .object => skip; return true
  | some c, frame =>
    if opened then
      if frame = .object then passName
      return false
    else if c = ',' then
      skip
      if frame = .object then passName
      return false
    else
      match frame with
      | .list => throw .expectedCommaInList
      | .object => throw .expectedCommaInObject

/-- Passes over a value and what closes the frames around it, in at most so many steps. -/
def passWithin : Nat → Passing → List Frame → Reader Unit
  | 0, _, _ => pure ()
  | _ + 1, .ended, [] => pure ()
  | _ + 1, .opened, [] => pure ()
  | steps + 1, .ended, frame :: frames => do
    if ← passFrame frame false then passWithin steps .ended frames
    else passWithin steps .value (frame :: frames)
  | steps + 1, .opened, frame :: frames => do
    if ← passFrame frame true then passWithin steps .ended frames
    else passWithin steps .value (frame :: frames)
  | steps + 1, .value, frames => do
    match ← token with
    | none => throw .endInValue
    | some c =>
      if c = '[' then skip; passWithin steps .opened (.list :: frames)
      else if c = '\x7b' then skip; passWithin steps .opened (.object :: frames)
      else
        passScalar c
        passWithin steps .ended frames

/-- Passes over a value. -/
def passValue : Reader Unit := fun cs =>
  passWithin (2 * cs.length + 2) .value [] cs

/-! ## Whole texts -/

/-- Reads a whole text. -/
def run {α : Type} (read : Reader α) (s : String) : Except Fault α :=
  match read s.toList with
  | .error e => .error e
  | .ok (a, rest) =>
    if (rest.dropWhile isSpace).isEmpty then .ok a else .error .trailingCharacters

end Reader

/-- Reads a text that holds one value. -/
def parse (s : String) : Except Fault Value :=
  (Reader.value maxDepth).run s

end SteadyTask.Json
