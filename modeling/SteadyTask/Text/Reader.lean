import SteadyTask.Text.Search

/-!
# Reading from the front

A reader takes what it reads from the front of some characters and leaves the rest; where the
characters are not what it reads it fails, without saying why.  This module has the steps that
readers of different formats share.
-/

namespace SteadyTask.Text

/-- Takes something from the front of some characters. -/
abbrev Reader (α : Type) := StateT (List Char) Option α

namespace Reader

/-- What is left. -/
def rest : Reader (List Char) := get

/-- The next character, which stays in place. -/
def peek : Reader (Option Char) := fun cs => some (cs.head?, cs)

/-- Fails. -/
def fail {α : Type} : Reader α := fun _ => none

/-- What there is, or a failure. -/
def need {α : Type} (found : Option α) : Reader α := fun cs => found.map fun a => (a, cs)

/-- Drops some characters. -/
def drop (count : Nat) : Reader Unit := fun cs => some ((), cs.drop count)

/-- Takes the characters that satisfy a test. -/
def takeWhile (test : Char → Bool) : Reader (List Char) := fun cs =>
  some (cs.takeWhile test, cs.dropWhile test)

/-- Takes a given text. -/
def expect (start : String) : Reader Unit := fun cs =>
  (afterStart? start.toList cs).map fun rest => ((), rest)

/-- Takes a given text if it comes next; says whether it did. -/
def accept (start : String) : Reader Bool := fun cs =>
  match afterStart? start.toList cs with
  | some rest => some (true, rest)
  | none => some (false, cs)

/-- The text that characters make, read by a function on characters. -/
def textOf (read : List Char → Option (List Char × List Char)) : Reader String := fun cs =>
  (read cs).map fun (ds, rest) => (String.ofList ds, rest)

/-- Fails if anything is left. -/
def atEnd : Reader Unit := fun cs =>
  if cs.isEmpty then some ((), cs) else none

/-- Takes items up to the closing bracket, in at most so many steps.  Between them stand commas,
and one may stand after the last. -/
def itemsWithin {α : Type} (gap : Reader Unit) (item : Reader α) (close : String) :
    Nat → Reader (List α)
  | 0 => fail
  | steps + 1 => do
    gap
    if ← accept close then return []
    let a ← item
    gap
    if ← accept "," then return a :: (← itemsWithin gap item close steps)
    expect close
    return [a]

/-- Takes items up to the closing bracket, with gaps around them. -/
def items {α : Type} (gap : Reader Unit) (item : Reader α) (close : String) :
    Reader (List α) := do
  itemsWithin gap item close ((← rest).length + 1)

end Reader

/-- The quote that is written as an apostrophe. -/
def apostrophe : Char := Char.ofNat 39

/-- The number that hexadecimal digits write. -/
def hexNumber? (cs : List Char) : Option Nat :=
  cs.foldlM (fun n c =>
    if '0' ≤ c ∧ c ≤ '9' then some (n * 16 + (c.toNat - '0'.toNat))
    else if 'a' ≤ c ∧ c ≤ 'f' then some (n * 16 + (c.toNat - 'a'.toNat + 10))
    else if 'A' ≤ c ∧ c ≤ 'F' then some (n * 16 + (c.toNat - 'A'.toNat + 10))
    else none) 0

/-- Whether a character is a hexadecimal digit. -/
def isHexDigit (c : Char) : Bool :=
  (hexNumber? [c]).isSome

/-- The character with a number that is written in so many hexadecimal digits. -/
def codedChar? (count : Nat) (cs : List Char) : Option Char :=
  let digits := cs.take count
  if digits.length = count then
    (hexNumber? digits).bind fun n => if n.isValidChar then some (Char.ofNat n) else none
  else none

end SteadyTask.Text
