import SteadyTask.Decimal.Reading
import SteadyTask.Json.Fault

/-!
# Numbers in JSON

A number without fraction and exponent that fits in 64 bits is whole; `-0` is not.  Every other
number is its first digits, as many as fit in 64 bits without a sign, scaled by one power of ten:
one multiplication or division of binary numbers, so the last place of the result can differ from
the nearest binary number.  A number too large to be finite is a fault, one too small is zero.
-/

namespace SteadyTask.Json

/-- A number as it was written. -/
inductive Number where
  | whole (n : Int)
  | real (x : Float)
  deriving Repr

/-- The largest number of 64 bits. -/
def maxWord : Nat :=
  Nat.pow 2 64 - 1

/-- Takes digits up as long as the number fits in 64 bits.  The result is the number, how many
digits it took up, and how many were left. -/
def fitDigits (value : Nat) : List Char → Nat × Nat × Nat
  | [] => (value, 0, 0)
  | c :: rest =>
    let next := value * 10 + (c.toNat - '0'.toNat)
    if next > maxWord then (value, 0, rest.length + 1)
    else
      let (value, used, left) := fitDigits next rest
      (value, used + 1, left)

/-- A power of ten. -/
def powerOfTen (exponent : Nat) : Float :=
  Float.ofScientific 1 false exponent

/-- `x · 10 ^ exponent`; powers beyond the range are divided out in steps of 308. -/
def scale (x : Float) (exponent : Int) : Nat → Except Fault Float
  | 0 => .ok x
  | steps + 1 =>
    if exponent.natAbs ≤ 308 then
      if 0 ≤ exponent then
        let y := x * powerOfTen exponent.natAbs
        if y.isInf then .error .numberOutOfRange else .ok y
      else .ok (x / powerOfTen exponent.natAbs)
    else if x == 0.0 then .ok x
    else if 0 ≤ exponent then .error .numberOutOfRange
    else scale (x / powerOfTen 308) (exponent + 308) steps

/-- The number `significand · 10 ^ exponent` with its sign. -/
def realOf (positive : Bool) (significand : Nat) (exponent : Int) : Except Fault Number :=
  match scale significand.toUInt64.toFloat exponent 5 with
  | .error e => .error e
  | .ok x => .ok (.real (if positive then x else -x))

/-- The exponent's size up to which it is taken as it is. -/
def maxExponent : Nat :=
  Nat.pow 2 31 - 1

/-- Splits off the sign of an exponent: whether it raises the number, and what follows. -/
def exponentSign : List Char → Bool × List Char
  | '+' :: rest => (true, rest)
  | '-' :: rest => (false, rest)
  | rest => (true, rest)

/-- Reads an exponent, from after its `e`. -/
def readExponent (positive : Bool) (significand : Nat) (start : Int) (cs : List Char) :
    Except Fault (Number × List Char) :=
  let (raised, cs) := exponentSign cs
  let (digits, rest) := Decimal.leadingDigits cs
  match digits, rest with
  | [], [] => .error .endInValue
  | [], _ :: _ => .error .invalidNumber
  | _ :: _, _ =>
    let size := Decimal.digitsValue digits
    if size > maxExponent then
      if significand ≠ 0 ∧ raised then .error .numberOutOfRange
      else .ok (.real (if positive then 0.0 else -0.0), rest)
    else
      (realOf positive significand (if raised then start + size else start - size)).map (·, rest)

/-- Reads what may follow the digits of a number that is not whole. -/
def readScale (positive : Bool) (significand : Nat) (start : Int) (cs : List Char) :
    Except Fault (Number × List Char) :=
  match cs with
  | 'e' :: rest => readExponent positive significand start rest
  | 'E' :: rest => readExponent positive significand start rest
  | rest => (realOf positive significand start).map (·, rest)

/-- Reads a fraction, from after its point. -/
def readFraction (positive : Bool) (significand : Nat) (start : Int) (cs : List Char) :
    Except Fault (Number × List Char) :=
  let (digits, rest) := Decimal.leadingDigits cs
  match digits, rest with
  | [], [] => .error .endInValue
  | [], _ :: _ => .error .invalidNumber
  | _ :: _, _ =>
    let (significand, used, _) := fitDigits significand digits
    readScale positive significand (start - used) rest

/-- The whole number that a sign and digits make, or the binary number where 64 bits do not hold
it. -/
def wholeOf (positive : Bool) (significand : Nat) : Number :=
  if positive then .whole significand
  else if significand = 0 ∨ significand > Nat.pow 2 63 then .real (-significand.toUInt64.toFloat)
  else .whole (-(significand : Int))

/-- Reads what follows the digits of a number, of which so many do not fit in 64 bits. -/
def readAfterDigits (positive : Bool) (significand left : Nat) (cs : List Char) :
    Except Fault (Number × List Char) :=
  match cs with
  | '.' :: rest => readFraction positive significand left rest
  | 'e' :: rest => readExponent positive significand left rest
  | 'E' :: rest => readExponent positive significand left rest
  | rest =>
    if left = 0 then .ok (wholeOf positive significand, rest)
    else (realOf positive significand left).map (·, rest)

/-- Reads a number, from after its sign. -/
def readNumber (positive : Bool) (cs : List Char) : Except Fault (Number × List Char) :=
  let (digits, rest) := Decimal.leadingDigits cs
  match digits, rest with
  | [], [] => .error .endInValue
  | [], _ :: _ => .error .invalidNumber
  | '0' :: _ :: _, _ => .error .invalidNumber
  | _ :: _, _ =>
    let (significand, _, left) := fitDigits 0 digits
    readAfterDigits positive significand left rest

end SteadyTask.Json
