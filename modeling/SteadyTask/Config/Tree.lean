import SteadyTask.Decimal.Notation
import SteadyTask.Decimal.Reading
import SteadyTask.Text.Fold

/-!
# Configuration trees

Files and the environment give configuration values as trees, whose leaves are typed by how they
were written and not by what the setting needs.  A setting therefore converts what it finds: a
number can stand for a truth value, a text for a number, and so on, as long as the meaning is
plain.  Conversions fail with `none`.
-/

namespace SteadyTask.Config

/-- A value as a source gives it. -/
inductive Tree where
  | absent
  | flag (b : Bool)
  | whole (n : Int)
  | real (x : Float)
  | text (s : String)
  | list (items : List Tree)
  | table (entries : List (String × Tree))
  deriving Repr, Inhabited

namespace Tree

/-- Words for yes. -/
def yesWords : List String := ["true", "on", "yes"]

/-- Words for no. -/
def noWords : List String := ["false", "off", "no"]

/-- The truth value of a word, in any letter case. -/
def wordFlag? (s : String) : Option Bool :=
  let word := Text.lower s
  if yesWords.contains word then some true
  else if noWords.contains word then some false
  else none

/-- One for yes and zero for no. -/
def flagNat (b : Bool) : Nat :=
  if b then 1 else 0

/-- A truth value: every number but zero is true, and so is a word for yes or the digit `1`. -/
def toFlag? : Tree → Option Bool
  | .flag b => some b
  | .whole n => some (n ≠ 0)
  | .real x => some (x != 0.0)
  | .text s => if s = "1" then some true else if s = "0" then some false else wordFlag? s
  | .absent | .list _ | .table _ => none

/-- A natural number of 64 bits.  A fraction is rounded, a half away from zero, and what lies
outside the range is moved to its end. -/
def toWord64? : Tree → Option Nat
  | .flag b => some (flagNat b)
  | .whole n => if 0 ≤ n ∧ n < Nat.pow 2 64 then some n.toNat else none
  | .real x => some x.round.toUInt64.toNat
  | .text s =>
    match wordFlag? s with
    | some b => some (flagNat b)
    | none => (Decimal.readNat (Nat.pow 2 64 - 1) s.toList).toOption
  | .absent | .list _ | .table _ => none

/-- A natural number of so many bits. -/
def toWord? (bits : Nat) (t : Tree) : Option Nat :=
  t.toWord64?.filter fun n => n < Nat.pow 2 bits

/-- A binary number. -/
def toReal? : Tree → Option Float
  | .flag b => some (Float.ofNat (flagNat b))
  | .whole n => some (Float.ofInt n)
  | .real x => some x
  | .text s =>
    match wordFlag? s with
    | some b => some (Float.ofNat (flagNat b))
    | none => Decimal.readFloat? s.toList
  | .absent | .list _ | .table _ => none

/-- A text. -/
def toText? : Tree → Option String
  | .flag b => some (toString b)
  | .whole n => some (toString n)
  | .real x => some (Decimal.plainText x)
  | .text s => some s
  | .absent | .list _ | .table _ => none

/-- Replaces the entry of a table with a given name, or adds one. -/
def setEntry (name : String) (t : Tree) : List (String × Tree) → List (String × Tree)
  | [] => [(name, t)]
  | (other, u) :: rest =>
    if name = other then (name, t) :: rest else (other, u) :: setEntry name t rest

/-- The table of some entries, of which the last one of each name counts. -/
def ofEntries (entries : List (String × Tree)) : Tree :=
  .table (entries.foldl (fun all (name, t) => setEntry name t all) [])

/-- The entries of a table; anything else has none. -/
def entries : Tree → List (String × Tree)
  | .table entries => entries
  | _ => []

end Tree

end SteadyTask.Config
