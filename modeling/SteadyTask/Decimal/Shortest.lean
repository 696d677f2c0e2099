/-!
# The fewest digits that read back

A binary number stands for every real that rounds to it: an interval around its value, whose ends
belong to it when the mantissa is even.  Its shortest decimal is the one with the fewest digits in
that interval, and among those the nearest to the value.  The interval is searched grid by grid,
in exact integer arithmetic: on the grid of `n` digits only the two neighbours of the value can be
nearest, and if the interval holds any point of the grid it holds one of these two.
-/

namespace SteadyTask.Decimal

/-- Where a value goes that is exactly between two decimals that both read back. -/
inductive Tie where
  | toEven
  | up
  deriving Repr, DecidableEq

/-- `digits · 10 ^ exponent`. -/
structure Scaled where
  digits : Nat
  exponent : Int
  deriving Repr, DecidableEq

/-- Numerator and denominator of `x · 2 ^ two / 10 ^ ten`. -/
def ratio (x : Nat) (two ten : Int) : Nat × Nat :=
  (x * Nat.pow 2 two.toNat * Nat.pow 10 (-ten).toNat, Nat.pow 2 (-two).toNat * Nat.pow 10 ten.toNat)

/-- Whether `x · 2 ^ two < 10 ^ ten`. -/
def belowPower (x : Nat) (two ten : Int) : Bool :=
  let (num, den) := ratio x two ten
  num < den

/-- The least `k`, from a first guess on, with `x · 2 ^ two < 10 ^ k`. -/
def leastPower (x : Nat) (two guess : Int) : Nat → Int
  | 0 => guess
  | tries + 1 => if belowPower x two guess then guess else leastPower x two (guess + 1) tries

/-- How many digits stand before the point: the `k` with `10 ^ (k - 1) ≤ x · 2 ^ two < 10 ^ k`. -/
def magnitude (x : Nat) (two : Int) : Int :=
  leastPower x two (((Nat.log2 x : Int) + two) * 30103 / 100000) 4

/-- The interval of reals that round to a number, in quarters of its last binary place. -/
structure Rounding where
  low : Nat
  value : Nat
  high : Nat
  closed : Bool
  deriving Repr

/-- The interval around `mantissa`. -/
def Rounding.around (mantissa : Nat) (narrow : Bool) : Rounding where
  low := 4 * mantissa - (if narrow then 1 else 2)
  value := 4 * mantissa
  high := 4 * mantissa + 2
  closed := mantissa % 2 == 0

/-- Whether the grid point `count · 10 ^ ten` lies in the interval at scale `2 ^ two`. -/
def Rounding.holds (r : Rounding) (two ten : Int) (count : Nat) : Bool :=
  let (low, den) := ratio r.low two ten
  let (high, _) := ratio r.high two ten
  if r.closed then low ≤ count * den && count * den ≤ high
  else low < count * den && count * den < high

/-- The neighbour of the value on the grid `10 ^ ten` that reads back, the nearer if both do. -/
def Rounding.onGrid? (r : Rounding) (tie : Tie) (two ten : Int) : Option Nat :=
  let (num, den) := ratio r.value two ten
  let below := num / den
  let above := below + 1
  let twiceRest := 2 * (num % den)
  match r.holds two ten below, r.holds two ten above with
  | true, true =>
    if twiceRest < den then some below
    else if twiceRest > den then some above
    else
      match tie with
      | .toEven => some (if below % 2 = 0 then below else above)
      | .up => some above
  | true, false => some below
  | false, true => some above
  | false, false => none

/-- Searches the grids of `digits`, `digits + 1`, … digits. -/
def Rounding.search (r : Rounding) (tie : Tie) (two power : Int) (digits : Nat) : Nat → Scaled
  | 0 => ⟨r.value, two⟩
  | grids + 1 =>
    let ten := power - digits
    match r.onGrid? tie two ten with
    | some count => ⟨count, ten⟩
    | none => r.search tie two power (digits + 1) grids

/-- Moves zeros at the end of the digits into the exponent. -/
def Scaled.trimZeros (s : Scaled) : Nat → Scaled
  | 0 => s
  | tries + 1 =>
    if s.digits ≠ 0 ∧ s.digits % 10 = 0 then
      Scaled.trimZeros ⟨s.digits / 10, s.exponent + 1⟩ tries
    else s

/-- The shortest decimal of `mantissa · 2 ^ exponent`; seventeen digits always suffice. -/
def shortest (tie : Tie) (mantissa : Nat) (exponent : Int) (narrow : Bool) : Scaled :=
  if mantissa = 0 then ⟨0, 0⟩
  else
    let r := Rounding.around mantissa narrow
    let two := exponent - 2
    (r.search tie two (magnitude r.value two) 1 17).trimZeros 17

end SteadyTask.Decimal
