import SteadyTask.Config.Tree
import SteadyTask.Text.Letter
import SteadyTask.Text.Reader

/-!
# JSON5

JSON as it can be written by hand: with comments, a comma after the last item, names without
quotes, texts in either kind of quotes, and numbers with a sign, without a digit on one side of the
point, or in hexadecimal digits.  A whole number has 64 bits, and a hexadecimal one 32.
-/

namespace SteadyTask.Json5

open Config (Tree)
open Text (Reader)
open Text.Reader

/-- Whether a character ends a line. -/
def endsLine (c : Char) : Bool :=
  c = '\n' || c = '\r' || c.toNat = 0x2028 || c.toNat = 0x2029

/-- Whether a character separates what is written. -/
def isSpace (c : Char) : Bool :=
  (Text.isBlank c && c.toNat ≠ 0x85) || c.toNat = 0xFEFF

/-- The characters after a comment whose two first ones are taken. -/
def afterBlockComment? : List Char → Option (List Char)
  | '*' :: '/' :: rest => some rest
  | _ :: rest => afterBlockComment? rest
  | [] => none

/-- Drops blanks and comments, in at most so many steps. -/
def gapWithin : Nat → List Char → Option (List Char)
  | 0, cs => some cs
  | steps + 1, cs =>
    match cs.dropWhile isSpace with
    | '/' :: '/' :: rest => gapWithin steps (rest.dropWhile fun c => !endsLine c)
    | '/' :: '*' :: rest => (afterBlockComment? rest).bind (gapWithin steps)
    | rest => some rest

/-- Drops blanks and comments. -/
def gap : Reader Unit := fun cs =>
  (gapWithin (cs.length + 1) cs).map fun rest => ((), rest)

/-! ## Texts -/

/-- What a letter after a backslash stands for; any other character but a digit stands for
itself. -/
def escaped? (c : Char) : Option Char :=
  match c with
  | 'b' => some (Char.ofNat 8)
  | 'f' => some (Char.ofNat 12)
  | 'n' => some '\n'
  | 'r' => some '\r'
  | 't' => some '\t'
  | 'v' => some (Char.ofNat 11)
  | '0' => some (Char.ofNat 0)
  | c => if '1' ≤ c ∧ c ≤ '9' then none else some c

/-- The character that two units of 16 bits make.  Their bits are joined and not added up, so that
it always lies in a plane with an odd number. -/
def paired? (first second : Nat) : Option Char :=
  if 0xD800 ≤ first ∧ first < 0xDC00 ∧ 0xDC00 ≤ second ∧ second < 0xE000 then
    some (Char.ofNat (Nat.lor ((first - 0xD800) * 0x400) (0x10000 + (second - 0xDC00))))
  else none

/-- Characters without the line ends at their start that a backslash takes away. -/
def afterJoints : List Char → List Char
  | '\\' :: '\r' :: '\n' :: rest => afterJoints rest
  | '\\' :: c :: rest => if endsLine c then afterJoints rest else '\\' :: c :: rest
  | rest => rest

/-- Reads a character that is coded by four digits: a unit that is no character needs another one
after it, behind what can be dropped there. -/
def readCoded? (dropped : List Char → List Char) (cs : List Char) : Option (Char × List Char) :=
  match Text.codedChar? 4 cs with
  | some c => some (c, cs.drop 4)
  | none =>
    match dropped (cs.drop 4) with
    | '\\' :: 'u' :: more => do
      let second := more.take 4
      let c ← paired? (← Text.hexNumber? (cs.take 4)) (← Text.hexNumber? second)
      if second.length = 4 then some (c, more.drop 4) else none
    | _ => none

/-- Reads what a backslash before some characters comes to. -/
def readEscape? : List Char → Option (List Char × List Char)
  | 'x' :: rest => (Text.codedChar? 2 rest).map fun c => ([c], rest.drop 2)
  | 'u' :: rest => (readCoded? afterJoints rest).map fun (c, rest) => ([c], rest)
  | '\r' :: '\n' :: rest => some ([], rest)
  | c :: rest => if endsLine c then some ([], rest) else (escaped? c).map fun c => ([c], rest)
  | [] => none

/-- Reads a text up to its closing quote, in at most so many steps. -/
def readQuoted? (quote : Char) : Nat → List Char → Option (List Char × List Char)
  | 0, _ => none
  | _ + 1, [] => none
  | steps + 1, c :: rest =>
    if c = quote then some ([], rest)
    else if c = '\\' then do
      let (meant, rest) ← readEscape? rest
      let (taken, after) ← readQuoted? quote steps rest
      return (meant ++ taken, after)
    else if endsLine c then none
    else (readQuoted? quote steps rest).map fun (taken, after) => (c :: taken, after)

/-- Takes a text whose opening quote comes next. -/
def quoted : Reader String := textOf fun cs =>
  match cs with
  | [] => none
  | quote :: rest =>
    if quote = '"' ∨ quote = Text.apostrophe then readQuoted? quote (rest.length + 1) rest
    else none

/-! ## Numbers and words -/

/-- Whether a name without quotes can start with a character. -/
def isNameStart (c : Char) : Bool :=
  Text.isLetter c || c = '_' || c = '$'

/-- Whether a character can stand in a name without quotes. -/
def isNameChar (c : Char) : Bool :=
  isNameStart c || Text.isJoined c || c.toNat = 0x200C || c.toNat = 0x200D

/-- Reads a name without quotes, or the rest of one, in at most so many steps.  A coded character
can be any. -/
def readName? (test : Char → Bool) : Nat → List Char → Option (List Char × List Char)
  | 0, cs => some ([], cs)
  | steps + 1, '\\' :: 'u' :: rest => do
    let (c, rest) ← readCoded? id rest
    let (more, after) ← readName? isNameChar steps rest
    return (c :: more, after)
  | steps + 1, c :: rest =>
    if test c then
      (readName? isNameChar steps rest).map fun (more, after) => (c :: more, after)
    else some ([], c :: rest)
  | _ + 1, [] => some ([], [])

/-- Whether a character can stand in a number. -/
def isNumberChar (c : Char) : Bool :=
  c.isAlphanum || c = '+' || c = '-' || c = '.'

/-- Whether no digit follows a zero that a number starts with. -/
def hasPlainStart : List Char → Bool
  | '0' :: c :: _ => !Decimal.isDigit c
  | _ => true

/-- The number that a run of characters is. -/
def number? (cs : List Char) : Option Tree :=
  let (sign, digits) :=
    match cs with
    | '+' :: rest => (['+'], rest)
    | '-' :: rest => (['-'], rest)
    | rest => ([], rest)
  let word := String.ofList digits
  if word = "Infinity" ∧ sign ≠ ['+'] then (Decimal.readFloat? (sign ++ "inf".toList)).map Tree.real
  else if word = "NaN" ∧ sign ≠ ['+'] then some (.real (0.0 / 0.0))
  else
    match cs with
    | '0' :: x :: rest =>
      if x = 'x' ∨ x = 'X' then
        if rest.isEmpty then none
        else ((Text.hexNumber? rest).filter (· < Nat.pow 2 32)).map fun n => .whole n
      else decimal? sign digits
    | _ => decimal? sign digits
where
  /-- A decimal number, whole if it has neither a point nor an exponent. -/
  decimal? (sign digits : List Char) : Option Tree :=
    if !(digits.head?.any fun c => Decimal.isDigit c || c = '.') || !hasPlainStart digits then none
    else if digits.all Decimal.isDigit then (Decimal.readInt64? (sign ++ digits)).map Tree.whole
    else ((Decimal.readFloat? (sign ++ digits)).filter Float.isFinite).map Tree.real

/-- The value that a run of letters is. -/
def word? (cs : List Char) : Option Tree :=
  match String.ofList cs with
  | "null" => some .absent
  | "true" => some (.flag true)
  | "false" => some (.flag false)
  | _ => number? cs

/-! ## Values -/

/-- Takes a name. -/
def name : Reader String := do
  match ← peek with
  | some c =>
    if c = '"' ∨ c = Text.apostrophe then quoted
    else
      let name ← textOf fun cs => readName? isNameStart (cs.length + 1) cs
      if name.isEmpty then fail else return name
  | none => fail

/-- Takes a name and its value. -/
def entry (value : Reader Tree) : Reader (String × Tree) := do
  let name ← name
  gap
  expect ":"
  gap
  return (name, ← value)

/-- Takes a value in which arrays and objects are nested at most so deep. -/
def valueWithin : Nat → Reader Tree
  | 0 => fail
  | depth + 1 => do
    match ← peek with
    | none => fail
    | some '[' => do
      drop 1
      return .list (← items gap (valueWithin depth) "]")
    | some '\x7b' => do
      drop 1
      return Tree.ofEntries (← items gap (entry (valueWithin depth)) "\x7d")
    | some c =>
      if c = '"' ∨ c = Text.apostrophe then return .text (← quoted)
      else need (word? (← takeWhile isNumberChar))

/-- Takes a value with nothing but blanks and comments around it. -/
def document : Reader Tree := do
  gap
  let t ← valueWithin ((← rest).length + 1)
  gap
  atEnd
  return t

/-- Reads a value; `none` if the text is none. -/
def parse? (s : String) : Option Tree :=
  (document s.toList).map Prod.fst

end SteadyTask.Json5
