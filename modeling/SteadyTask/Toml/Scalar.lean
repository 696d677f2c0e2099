import SteadyTask.Config.Tree
import SteadyTask.Decimal.Reading
import SteadyTask.Timestamp
import SteadyTask.Toml.Reader

/-!
# Numbers, dates and truth values in TOML

A value that is not quoted and opens no bracket is one run of letters, digits and a few signs; a
date can be followed by one blank and a time.  Digits can be grouped by single underscores.  Dates
and times have no type of their own in a configuration: they are their text in normal form.
-/

namespace SteadyTask.Toml

open Config (Tree)
open Text (Reader hexNumber? isHexDigit)

/-- Whether a character can stand in a value without quotes. -/
def isWordChar (c : Char) : Bool :=
  c.isAlphanum || c = '+' || c = '-' || c = '_' || c = '.' || c = ':'

/-! ## Numbers -/

/-- Digits after a first one, without the underscores between them. -/
def ungroupMore? (test : Char → Bool) : List Char → Option (List Char)
  | [] => some []
  | '_' :: d :: rest => if test d then (ungroupMore? test rest).map (d :: ·) else none
  | c :: rest => if test c then (ungroupMore? test rest).map (c :: ·) else none

/-- Digits without the underscores between them. -/
def ungroup? (test : Char → Bool) : List Char → Option (List Char)
  | [] => none
  | c :: rest => if test c then (ungroupMore? test rest).map (c :: ·) else none

/-- Decimal digits without a zero in front of others. -/
def wholeDigits? (cs : List Char) : Option (List Char) :=
  (ungroup? Decimal.isDigit cs).filter fun digits => digits.head? ≠ some '0' || digits.length = 1

/-- Splits off a sign. -/
def splitSign : List Char → List Char × List Char
  | '-' :: rest => (['-'], rest)
  | '+' :: rest => ([], rest)
  | rest => ([], rest)

/-- A whole number of 64 bits with its sign. -/
def decimalWhole? (cs : List Char) : Option Tree := do
  let (sign, cs) := splitSign cs
  let digits ← wholeDigits? cs
  return .whole (← Decimal.readInt64? (sign ++ digits))

/-- A whole number of 64 bits, written to a base that is a power of two. -/
def basedWhole? (test : Char → Bool) (base : Nat) (cs : List Char) : Option Tree := do
  let digits ← ungroup? test cs
  let n := digits.foldl (fun n c => n * base + ((hexNumber? [c]).getD 0)) 0
  if n < Nat.pow 2 63 then return .whole n else none

/-- A whole number. -/
def whole? : List Char → Option Tree
  | '0' :: 'x' :: rest => basedWhole? isHexDigit 16 rest
  | '0' :: 'o' :: rest => basedWhole? (fun c => '0' ≤ c && c ≤ '7') 8 rest
  | '0' :: 'b' :: rest => basedWhole? (fun c => c = '0' || c = '1') 2 rest
  | cs => decimalWhole? cs

/-- Whether a character can stand in a group of decimal digits. -/
def isGroupChar (c : Char) : Bool :=
  Decimal.isDigit c || c = '_'

/-- The exponent of a number, which takes up all that is left. -/
def exponent? : List Char → Option (List Char)
  | e :: rest =>
    if e = 'e' ∨ e = 'E' then
      let (sign, rest) := splitSign rest
      (ungroup? Decimal.isDigit rest).map fun digits => 'e' :: (sign ++ digits)
    else none
  | [] => none

/-- The fraction of a number and the exponent after it; one of the two has to be there. -/
def fraction? : List Char → Option (List Char)
  | '.' :: rest => do
    let digits ← ungroup? Decimal.isDigit (rest.takeWhile isGroupChar)
    match rest.dropWhile isGroupChar with
    | [] => return '.' :: digits
    | more => return '.' :: (digits ++ (← exponent? more))
  | cs => exponent? cs

/-- A binary number; one that is too large is none, unless it is negative. -/
def real? (cs : List Char) : Option Tree := do
  let (sign, cs) := splitSign cs
  if cs = "inf".toList ∨ cs = "nan".toList then
    return .real (← Decimal.readFloat? (sign ++ cs))
  else
    let digits ← wholeDigits? (cs.takeWhile isGroupChar)
    let more ← fraction? (cs.dropWhile isGroupChar)
    let x ← Decimal.readFloat? (sign ++ digits ++ more)
    if x.isInf && x > 0.0 then none else return .real x

/-! ## Dates and times -/

/-- Takes a date: its text. -/
def takeDate? (cs : List Char) : Option (String × List Char) := do
  let (year, rest) ← Timestamp.takeDigits? 4 cs
  let (month, rest) ← Timestamp.takeDigits? 2 (← Timestamp.takeOne? ['-'] rest)
  let (day, rest) ← Timestamp.takeDigits? 2 (← Timestamp.takeOne? ['-'] rest)
  if month = 0 ∨ month > 12 ∨ day = 0 ∨ day > Timestamp.daysInMonth year month then none
  else
    return (Timestamp.padded 4 year ++ "-" ++ Timestamp.padded 2 month ++ "-" ++
      Timestamp.padded 2 day, rest)

/-- Takes the fraction of a second: its text without zeros at the end; places beyond the ninth are
cut. -/
def takeSecondFraction? : List Char → Option (String × List Char)
  | '.' :: rest =>
    let (digits, rest) := Decimal.leadingDigits rest
    let kept := ((digits.take 9).reverse.dropWhile (· = '0')).reverse
    if digits.isEmpty then none
    else some (if kept.isEmpty then "" else String.ofList ('.' :: kept), rest)
  | rest => some ("", rest)

/-- Takes a time of day: its text. -/
def takeTime? (cs : List Char) : Option (String × List Char) := do
  let (hour, rest) ← Timestamp.takeDigits? 2 cs
  let (minute, rest) ← Timestamp.takeDigits? 2 (← Timestamp.takeOne? [':'] rest)
  let (second, rest) ← Timestamp.takeDigits? 2 (← Timestamp.takeOne? [':'] rest)
  let (fraction, rest) ← takeSecondFraction? rest
  if hour > 23 ∨ minute > 59 ∨ second > 60 then none
  else
    return (Timestamp.padded 2 hour ++ ":" ++ Timestamp.padded 2 minute ++ ":" ++
      Timestamp.padded 2 second ++ fraction, rest)

/-- The text of an offset from universal time, which takes up all that is left. -/
def offsetText? : List Char → Option String
  | [] => some ""
  | ['Z'] => some "Z"
  | ['z'] => some "Z"
  | sign :: rest => do
    let (hour, rest) ← Timestamp.takeDigits? 2 rest
    let (minute, rest) ← Timestamp.takeDigits? 2 (← Timestamp.takeOne? [':'] rest)
    if !rest.isEmpty || hour > 23 || minute > 59 || (sign ≠ '+' && sign ≠ '-') then none
    else
      let shown := if sign = '-' && hour + minute > 0 then "-" else "+"
      return shown ++ Timestamp.padded 2 hour ++ ":" ++ Timestamp.padded 2 minute

/-- A time with an offset after a date. -/
def timeAndOffset? (date : String) (cs : List Char) : Option Tree := do
  let (time, rest) ← takeTime? cs
  return .text (date ++ "T" ++ time ++ (← offsetText? rest))

/-- A date, a time, or both. -/
def moment? (cs : List Char) : Option Tree :=
  match takeDate? cs with
  | some (date, []) => some (.text date)
  | some (date, c :: rest) => if c = 'T' ∨ c = 't' then timeAndOffset? date rest else none
  | none =>
    match takeTime? cs with
    | some (time, []) => some (.text time)
    | _ => none

/-! ## Words -/

/-- What a run of characters without quotes means. -/
def word? (cs : List Char) : Option Tree :=
  if cs = "true".toList then some (.flag true)
  else if cs = "false".toList then some (.flag false)
  else (moment? cs).or ((whole? cs).or (real? cs))

/-- The date that a run is, if a time can follow it. -/
def dateOnly? (cs : List Char) : Option String :=
  match takeDate? cs with
  | some (date, []) => some date
  | _ => none

namespace Reader

open Text.Reader

/-- Takes a value without quotes. -/
def word : Reader Tree := do
  let cs ← takeWhile isWordChar
  match dateOnly? cs, ← rest with
  | some date, ' ' :: next :: _ =>
    if Decimal.isDigit next then
      drop 1
      need (timeAndOffset? date (← takeWhile isWordChar))
    else return .text date
  | _, _ => need (word? cs)

end Reader

end SteadyTask.Toml
