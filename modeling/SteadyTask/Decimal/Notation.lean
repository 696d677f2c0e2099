import SteadyTask.Decimal.Binary
import SteadyTask.Decimal.Shortest

/-!
# How numbers are written

Three ways to write a binary number, all from exact digits: the notation of JSON numbers, which
keeps `.0` on whole numbers and goes over to an exponent outside `1e-5 ≤ |x| < 1e16`; the plain
notation, which never has an exponent and no `.0`; and a fixed number of places, where a half goes
to the even neighbour.
-/

namespace SteadyTask.Decimal

/-- Decimal digits of a natural number. -/
def digitText (n : Nat) : String :=
  String.ofList (Nat.toDigits 10 n)

/-- So many zeros. -/
def zeros (count : Nat) : String :=
  String.ofList (List.replicate count '0')

/-- A sign in front of a text. -/
def signed (negative : Bool) (text : String) : String :=
  if negative then "-" ++ text else text

/-- Positional writing of `digits · 10 ^ exponent`; a whole number is followed by `whole`. -/
def positional (whole : String) (s : Scaled) : String :=
  let digits := digitText s.digits
  if 0 ≤ s.exponent then digits ++ zeros s.exponent.toNat ++ whole
  else
    let places := (-s.exponent).toNat
    if digits.length ≤ places then "0." ++ zeros (places - digits.length) ++ digits
    else
      let front := digits.length - places
      String.ofList (digits.toList.take front) ++ "." ++ String.ofList (digits.toList.drop front)

/-- Writing with an exponent: one digit, the others after a point, and a signed power of ten. -/
def exponential (s : Scaled) : String :=
  let digits := Nat.toDigits 10 s.digits
  let power := s.exponent + digits.length - 1
  let front :=
    match digits with
    | [] => "0"
    | [d] => String.ofList [d]
    | d :: rest => String.ofList (d :: '.' :: rest)
  front ++ "e" ++ (if power < 0 then "-" else "+") ++ digitText power.natAbs

/-- Whether a JSON number of these digits is written without an exponent. -/
def isPositional (s : Scaled) : Bool :=
  let power := s.exponent + (digitText s.digits).length
  power > -5 && power ≤ 16

/-- The JSON notation of a finite number; `none` for the others, which JSON cannot write. -/
def jsonText? (x : Float) : Option String :=
  match Binary.ofFloat x with
  | .nan | .infinite _ => none
  | .finite negative mantissa exponent narrow =>
    let s := shortest .toEven mantissa exponent narrow
    some (signed negative
      (if mantissa = 0 then "0.0" else if isPositional s then positional ".0" s else exponential s))

/-- The plain notation of any number. -/
def plainText (x : Float) : String :=
  match Binary.ofFloat x with
  | .nan => "NaN"
  | .infinite negative => signed negative "inf"
  | .finite negative mantissa exponent narrow =>
    signed negative (positional "" (shortest .up mantissa exponent narrow))

/-- The quotient rounded to the nearest natural number, a half to the even neighbour. -/
def roundDiv (num den : Nat) : Nat :=
  let quotient := num / den
  let twiceRest := 2 * (num % den)
  if twiceRest < den then quotient
  else if twiceRest > den then quotient + 1
  else if quotient % 2 = 0 then quotient else quotient + 1

/-- A finite number with exactly so many digits after the point. -/
def fixedText (places : Nat) (x : Float) : String :=
  match Binary.ofFloat x with
  | .nan => "NaN"
  | .infinite negative => signed negative "inf"
  | .finite negative mantissa exponent _ =>
    let (num, den) := ratio (mantissa * Nat.pow 10 places) exponent 0
    let scaled := roundDiv num den
    let fraction := digitText (scaled % Nat.pow 10 places)
    let front := signed negative (digitText (scaled / Nat.pow 10 places))
    if places = 0 then front
    else front ++ "." ++ zeros (places - fraction.length) ++ fraction

end SteadyTask.Decimal
