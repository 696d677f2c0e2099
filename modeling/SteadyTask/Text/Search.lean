/-!
# Searching in characters

Positions of a pattern in a list of characters, by splitting the list around an occurrence.
-/

namespace SteadyTask.Text

/-- What follows a given start of a list, if the list starts so. -/
def afterStart? (start : List Char) (cs : List Char) : Option (List Char) :=
  match start, cs with
  | [], rest => some rest
  | _ :: _, [] => none
  | p :: ps, c :: rest => if p = c then afterStart? ps rest else none

/-- Whether a list starts with another. -/
def startsWith (start cs : List Char) : Bool :=
  (afterStart? start cs).isSome

/-- Splits a list around the first occurrence of a pattern: what is before and what is after it. -/
def splitFirst? (pattern : List Char) : List Char → Option (List Char × List Char)
  | [] => (afterStart? pattern []).map fun rest => ([], rest)
  | c :: rest =>
    match afterStart? pattern (c :: rest) with
    | some after => some ([], after)
    | none => (splitFirst? pattern rest).map fun (before, after) => (c :: before, after)

/-- The characters up to the last one that satisfies a test, that one included. -/
def throughLast? (test : Char → Bool) (cs : List Char) : Option (List Char) :=
  match cs.reverse.dropWhile (fun c => !test c) with
  | [] => none
  | kept => some kept.reverse

/-- A text cut to at most so many characters. -/
def take (count : Nat) (s : String) : String :=
  String.ofList (s.toList.take count)

/-- Joins texts, with a separator between them. -/
def join (separator : String) (parts : List String) : String :=
  separator.intercalate parts

end SteadyTask.Text
