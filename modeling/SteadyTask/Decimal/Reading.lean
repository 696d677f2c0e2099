/-!
# Reading decimal numbers

The binary number nearest to a decimal, and the grammars of the texts that are numbers where a
text is read on its own: whole numbers with an optional sign, and decimals with an optional sign,
fraction and exponent, besides the words for infinity and for not a number in any letter case.
-/

namespace SteadyTask.Decimal

/-- The value of a decimal digit. -/
def digitValue? (c : Char) : Option Nat :=
  if '0' ≤ c ∧ c ≤ '9' then some (c.toNat - '0'.toNat) else none

/-- Whether a character is a decimal digit. -/
def isDigit (c : Char) : Bool :=
  (digitValue? c).isSome

/-- The number that digits stand for. -/
def digitsValue (cs : List Char) : Nat :=
  cs.foldl (fun n c => n * 10 + (c.toNat - '0'.toNat)) 0

/-- The number nearest to `digits · 10 ^ exponent`.  Beyond 400 places on either side of the
point every number is infinite or zero, and nothing is computed. -/
def nearest (digits : Nat) (exponent : Int) : Float :=
  let power := exponent + (Nat.toDigits 10 digits).length
  if digits = 0 then 0.0
  else if power > 400 then 1.0 / 0.0
  else if power < -400 then 0.0
  else if exponent < 0 then Float.ofScientific digits true exponent.natAbs
  else Float.ofScientific digits false exponent.natAbs

/-- Why a text is no whole number. -/
inductive WholeFault where
  | empty
  | invalidDigit
  | tooLarge
  | tooSmall
  deriving Repr, DecidableEq

/-- The wording of each cause. -/
def WholeFault.message : WholeFault → String
  | .empty => "cannot parse integer from empty string"
  | .invalidDigit => "invalid digit found in string"
  | .tooLarge => "number too large to fit in target type"
  | .tooSmall => "number too small to fit in target type"

/-- Reads digits up to a bound.  The first character that is no digit or takes the number past the
bound decides the fault. -/
def boundedDigits (bound : Nat) : List Char → Nat → Except WholeFault Nat
  | [], value => .ok value
  | c :: rest, value =>
    match digitValue? c with
    | none => .error .invalidDigit
    | some d =>
      if value * 10 + d > bound then .error .tooLarge
      else boundedDigits bound rest (value * 10 + d)

/-- Reads a natural number up to a bound; a plus sign may stand before it. -/
def readNat (bound : Nat) (cs : List Char) : Except WholeFault Nat :=
  match cs with
  | [] => .error .empty
  | ['+'] => .error .invalidDigit
  | '+' :: digits => boundedDigits bound digits 0
  | digits => boundedDigits bound digits 0

/-- Reads a whole number of 64 bits with its sign. -/
def readInt64? (cs : List Char) : Option Int :=
  match cs with
  | ['-'] => none
  | '-' :: digits => (boundedDigits (Nat.pow 2 63) digits 0).toOption.map fun n => -(n : Int)
  | digits => (readNat (Nat.pow 2 63 - 1) digits).toOption.map fun n => (n : Int)

/-- Splits off the digits a list starts with. -/
def leadingDigits (cs : List Char) : List Char × List Char :=
  (cs.takeWhile isDigit, cs.dropWhile isDigit)

/-- Reads the exponent of a decimal, which takes up all that is left; nothing left means zero. -/
def readExponent? : List Char → Option Int
  | [] => some 0
  | e :: rest =>
    if e = 'e' ∨ e = 'E' then
      let (negative, digits) :=
        match rest with
        | '+' :: digits => (false, digits)
        | '-' :: digits => (true, digits)
        | digits => (false, digits)
      if digits.isEmpty || !digits.all isDigit then none
      else
        let size : Int := digitsValue digits
        some (if negative then -size else size)
    else none

/-- Reads a decimal without its sign. -/
def readUnsigned? (cs : List Char) : Option Float :=
  let (whole, rest) := leadingDigits cs
  let (fraction, rest) :=
    match rest with
    | '.' :: rest => leadingDigits rest
    | rest => ([], rest)
  if whole.isEmpty && fraction.isEmpty then none
  else
    (readExponent? rest).map fun exponent =>
      nearest (digitsValue (whole ++ fraction)) (exponent - fraction.length)

/-- Lower case of an ASCII letter. -/
def lowerAscii (c : Char) : Char :=
  if 'A' ≤ c ∧ c ≤ 'Z' then Char.ofNat (c.toNat + 32) else c

/-- Reads a number without its sign: a decimal, `inf`, `infinity` or `nan` in any letter case. -/
def readMagnitude? (cs : List Char) : Option Float :=
  let word := String.ofList (cs.map lowerAscii)
  if word = "inf" ∨ word = "infinity" then some (1.0 / 0.0)
  else if word = "nan" then some (0.0 / 0.0)
  else readUnsigned? cs

/-- Reads a number; `none` if the text is none. -/
def readFloat? (cs : List Char) : Option Float :=
  match cs with
  | '+' :: rest => readMagnitude? rest
  | '-' :: rest => (readMagnitude? rest).map fun x => -x
  | rest => readMagnitude? rest

end SteadyTask.Decimal
