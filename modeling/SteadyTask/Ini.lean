import SteadyTask.Config.Tree
import SteadyTask.Text.Blank
import SteadyTask.Text.Reader

/-!
# INI files

A list of properties, each below the section that is named last before it.  A name ends at the
first `=` or `:`, a value at the end of its line; quotes at its start can hold ends of lines
together.  All values are texts.  A backslash gives the next character another meaning or
takes away the one it has, in names too.  A comment takes up a line from its first character.
-/

namespace SteadyTask.Ini

open Config (Tree)

/-- The character with a number of four signs: hexadecimal digits, the first of which can be a plus
instead. -/
def codedChar? (a b c d : Char) : Option Char :=
  if a = '+' then Text.codedChar? 3 [b, c, d] else Text.codedChar? 4 [a, b, c, d]

/-- Reads up to a character that stops it, which stays in place.  The end of the text stops it only
where that is allowed. -/
def readUntil (stops : Char → Bool) (endStops : Bool) : List Char → Option (List Char × List Char)
  | [] => if endStops then some ([], []) else none
  | '\\' :: 'x' :: a :: b :: c :: d :: rest => do
    let coded ← codedChar? a b c d
    let (taken, after) ← readUntil stops endStops rest
    return (coded :: taken, after)
  | '\\' :: '\n' :: rest => readUntil stops endStops rest
  | ['\\'] => none
  | '\\' :: c :: rest =>
    let meant :=
      match c with
      | '0' => some (Char.ofNat 0)
      | 'a' => some (Char.ofNat 7)
      | 'b' => some (Char.ofNat 8)
      | 't' => some '\t'
      | 'r' => some '\r'
      | 'n' => some '\n'
      | 'x' => none
      | c => some c
    match meant, readUntil stops endStops rest with
    | some meant, some (taken, after) => some (meant :: taken, after)
    | _, _ => none
  | c :: rest =>
    if stops c then some ([], c :: rest)
    else (readUntil stops endStops rest).map fun (taken, after) => (c :: taken, after)

/-- Whether a character ends a line. -/
def endsLine (c : Char) : Bool :=
  c = '\n' || c = '\r'

/-- Whether a character is a blank within a line. -/
def isSpace (c : Char) : Bool :=
  Text.isBlank c && !endsLine c

/-- Reads a value to the end of its line.  Only what it starts with can be in quotes, and blanks
around the whole do not count. -/
def readValue (cs : List Char) : Option (List Char × List Char) := do
  let cs := cs.dropWhile isSpace
  let (quoted, cs) ←
    match cs with
    | c :: rest =>
      if c = '"' ∨ c = Text.apostrophe then
        (readUntil (· = c) false rest).map fun (quoted, rest) => (quoted, rest.drop 1)
      else some ([], cs)
    | [] => some ([], [])
  let (plain, after) ← readUntil endsLine true cs
  return (Text.trimChars (quoted ++ plain), after)

/-- A section that is being read: its name, if it has one, and its properties. -/
structure Section where
  name : Option String
  entries : List (String × Tree)
  deriving Repr, Inhabited

/-- What a section comes to among those before it; a later section of the same name replaces an
earlier one. -/
def Section.addTo (s : Section) (entries : List (String × Tree)) : List (String × Tree) :=
  match s.name with
  | none => s.entries.foldl (fun all (name, t) => Tree.setEntry name t all) entries
  | some name => Tree.setEntry name (.table s.entries) entries

/-- The text of a name. -/
def nameOf (cs : List Char) : String :=
  String.ofList (Text.trimChars cs)

/-- Reads sections, in at most so many steps.  A comment can stand only at the start of a line. -/
def readSections : Nat → Bool → List Char → Section → List (String × Tree) →
    Option (List (String × Tree))
  | 0, _, _, _, _ => none
  | _ + 1, _, [], s, done => some (s.addTo done)
  | steps + 1, atStart, c :: rest, s, done =>
    if Text.isBlank c then readSections steps (c = '\n') rest s done
    else if c = ';' ∨ c = '#' then
      if atStart then readSections steps true (rest.dropWhile (· ≠ '\n') |>.drop 1) s done else none
    else if c = '[' then do
      let (name, after) ← readUntil (· = ']') false rest
      readSections steps false (after.drop 1) ⟨some (nameOf name), []⟩ (s.addTo done)
    else do
      let (name, after) ← readUntil (fun c => c = '=' || c = ':') false (c :: rest)
      if (nameOf name).isEmpty then none
      else
        let (value, after) ← readValue (after.drop 1)
        let t := Tree.text (String.ofList value)
        readSections steps false after ⟨s.name, Tree.setEntry (nameOf name) t s.entries⟩ done

/-- Reads a file; `none` if the text is none. -/
def parse? (s : String) : Option Tree :=
  (readSections (s.length + 1) true s.toList ⟨none, []⟩ []).map Tree.table

end SteadyTask.Ini
