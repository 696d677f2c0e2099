/-!
# Binary floating-point values, taken apart

A finite number is `mantissa · 2 ^ exponent` with a sign.  The bits of the number decide all three.
-/

namespace SteadyTask.Decimal

/-- What the bits of a binary64 number stand for. -/
inductive Binary where
  | nan
  | infinite (negative : Bool)
  /-- `mantissa · 2 ^ exponent`; `narrow` says that the next number toward zero is at half the
  distance of the next one away from zero. -/
  | finite (negative : Bool) (mantissa : Nat) (exponent : Int) (narrow : Bool)
  deriving Repr, DecidableEq

namespace Binary

/-- Takes the 64 bits of a number apart. -/
def ofBits (bits : Nat) : Binary :=
  let negative := bits / Nat.pow 2 63 % 2 == 1
  let biased : Nat := bits / Nat.pow 2 52 % Nat.pow 2 11
  let fraction : Nat := bits % Nat.pow 2 52
  if biased = Nat.pow 2 11 - 1 then
    if fraction = 0 then .infinite negative else .nan
  else if biased = 0 then .finite negative fraction (-1074) false
  else
    .finite negative (Nat.pow 2 52 + fraction) (Int.ofNat biased - 1075)
      (fraction == 0 && biased > 1)

/-- Takes a number apart. -/
def ofFloat (x : Float) : Binary :=
  ofBits x.toBits.toNat

end Binary

end SteadyTask.Decimal
