import SteadyTask.Text.Search

/-!
# Places and paths

A place is where a file or a folder is: the names on the way down from the root.  A path is what is
written to lead to a place; it can go down into a folder and up again, and it says whether it ends
at a folder.  Where a path leads depends on what is there, so that a path is followed in a tree of
folders only; this module holds what can be told from the path alone.
-/

namespace SteadyTask.Storage

/-- The names on the way from the root down to a file or a folder. -/
abbrev Place := List String

/-- A path as it is written, seen from the root. -/
structure Path where
  text : String
  deriving Repr, DecidableEq, Inhabited

/-- The path that leads through names from the root. -/
def Path.ofNames (names : List String) : Path :=
  ⟨"/" ++ Text.join "/" names⟩

namespace Place

/-- The place that a name leads to from a folder; above the root is the root. -/
def go (place : Place) (name : String) : Place :=
  if name = ".." then place.dropLast else place ++ [name]

/-- The place that names lead to from the root, if they all lead somewhere. -/
def ofNames (names : List String) : Place :=
  names.foldl go []

/-- Whether a place is below another. -/
def isBelow (place above : Place) : Bool :=
  above.length < place.length && place.take above.length == above

/-- The path that is written at a place; it starts at the root if it starts with a slash. -/
def path (place : Place) (written : String) : Path :=
  if written.startsWith "/" then ⟨written⟩ else .ofNames (place ++ [written])

end Place

/-- Whether a name has more bytes than a folder can hold. -/
def isLongName (name : String) : Bool :=
  255 < name.utf8ByteSize

namespace Path

/-- The names that a path leads through.  Nothing, and a dot, lead nowhere else. -/
def names (p : Path) : List String :=
  (p.text.splitOn "/").filter fun name => name ≠ "" && name ≠ "."

/-- Whether a path can end at a folder only, because nothing, a dot or two dots follow its last
slash. -/
def endsAtFolder (p : Path) : Bool :=
  ["", ".", ".."].contains ((p.text.splitOn "/").getLast?.getD "")

/-- Whether a path can be followed at all: it has no null character, and at most 4095 bytes. -/
def canBeFollowed (p : Path) : Bool :=
  p.text.utf8ByteSize < 4096 && !p.text.toList.contains '\x00'

/-- The path with an ending behind its last name; there is none behind two dots. -/
def withEnding? (p : Path) (ending : String) : Option Path :=
  match p.names.getLast? with
  | none => none
  | some name =>
    if name = ".." then none
    else some (ofNames (p.names.dropLast ++ [name ++ "." ++ ending]))

end Path

end SteadyTask.Storage
