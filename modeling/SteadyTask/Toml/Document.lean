import SteadyTask.Toml.Scalar

/-!
# TOML documents

A document is a list of entries, each below the header that stands last before it.  Headers and
dotted names open tables; what a table was opened by decides what may still be added to it: a
table with a header of its own is never reopened, neither by a second header nor by dotted names,
and one that dotted names have opened is only extended by dotted names of the same kind.
-/

namespace SteadyTask.Toml

open Config (Tree)
open Text (Reader apostrophe)

/-- What a table was opened by. -/
inductive Opening where
  /-- A header of its own, or the start of the document. -/
  | header
  /-- The header of a table below it. -/
  | implied
  /-- Dotted names. -/
  | dotted
  deriving Repr, DecidableEq

/-- A part of a document that is still being read. -/
inductive Node where
  | value (t : Tree)
  | table (opening : Opening) (entries : List (String × Node))
  | tables (items : List (List (String × Node)))
  deriving Repr, Inhabited

/-- Named parts. -/
abbrev Entries := List (String × Node)

namespace Entries

/-- Replaces the part with a given name. -/
def replace (name : String) (n : Node) (entries : Entries) : Entries :=
  entries.map fun entry => if entry.1 = name then (name, n) else entry

/-- Changes the table at a path; tables that are missing on the way are opened.  An array of tables
stands for its last item. -/
def change (dotted : Bool) (f : Opening → Entries → Option Entries) :
    List String → Opening → Entries → Option Entries
  | [], opening, entries => f opening entries
  | name :: rest, _, entries =>
    match entries.lookup name with
    | none => do
      let opening := if dotted then Opening.dotted else .implied
      return entries ++ [(name, .table opening (← change dotted f rest opening []))]
    | some (.value _) => none
    | some (.table opening inner) =>
      if dotted && opening == .header then none
      else do return entries.replace name (.table opening (← change dotted f rest opening inner))
    | some (.tables items) => do
      let inner ← change dotted f rest .header (items.getLast?.getD [])
      return entries.replace name (.tables (items.dropLast ++ [inner]))

/-- Adds a value to a table that was reached by dotted names, or by none. -/
def add (path : List String) (name : String) (t : Tree) (opening : Opening) (entries : Entries) :
    Option Entries :=
  if (opening == .dotted) == path.isEmpty || (entries.lookup name).isSome then none
  else some (entries ++ [(name, .value t)])

/-- Sets a value under a dotted name. -/
def set (names : List String) (t : Tree) (opening : Opening) (entries : Entries) :
    Option Entries :=
  match names.getLast? with
  | none => none
  | some name => change true (add names.dropLast name t) names.dropLast opening entries

/-- Opens a table by its header. -/
def openTable (name : String) (_ : Opening) (entries : Entries) : Option Entries :=
  match entries.lookup name with
  | none => some (entries ++ [(name, .table .header [])])
  | some (.table .implied inner) => some (entries.replace name (.table .header inner))
  | some _ => none

/-- Opens another item of an array of tables. -/
def openItem (name : String) (_ : Opening) (entries : Entries) : Option Entries :=
  match entries.lookup name with
  | none => some (entries ++ [(name, .tables [[]])])
  | some (.tables items) => some (entries.replace name (.tables (items ++ [[]])))
  | some _ => none

end Entries

mutual

/-- The value that a part is once all is read. -/
def Node.tree : Node → Tree
  | .value t => t
  | .table _ entries => .table (entryTrees entries)
  | .tables items => .list (itemTrees items)

/-- The values of named parts. -/
def entryTrees : List (String × Node) → List (String × Tree)
  | [] => []
  | (name, n) :: rest => (name, n.tree) :: entryTrees rest

/-- The values of the items of an array of tables. -/
def itemTrees : List (List (String × Node)) → List Tree
  | [] => []
  | entries :: rest => .table (entryTrees entries) :: itemTrees rest

end

/-! ## Names and values -/

/-- How many arrays and inline tables can be nested, and how many names can be dotted. -/
def maxDepth : Nat := 79

/-- Whether a character can stand in a name without quotes. -/
def isNameChar (c : Char) : Bool :=
  c.isAlphanum || c = '_' || c = '-'

namespace Reader

open Text.Reader

/-- Takes a name without dots. -/
def simpleName : Reader String := do
  spaces
  let cs ← takeWhile isNameChar
  let name ← if cs.isEmpty then shortText else pure (String.ofList cs)
  spaces
  return name

/-- Takes a dotted name of at most so many parts. -/
def namesWithin : Nat → Reader (List String)
  | 0 => fail
  | parts + 1 => do
    let name ← simpleName
    if ← accept "." then return name :: (← namesWithin parts) else return [name]

/-- Takes a dotted name. -/
def names : Reader (List String) :=
  namesWithin maxDepth

/-- Takes an entry: a dotted name and its value. -/
def entry (value : Reader Tree) : Reader (List String × Tree) := do
  let path ← names
  expect "="
  spaces
  return (path, ← value)

/-- Takes the entries of an inline table up to its brace, in at most so many steps. -/
def entriesWithin (value : Reader Tree) : Nat → Entries → Reader Entries
  | 0, _ => fail
  | steps + 1, entries => do
    let (path, t) ← entry value
    spaces
    let entries ← need (entries.set path t .header)
    if ← accept "," then entriesWithin value steps entries
    else
      expect "\x7d"
      return entries

/-- Takes an inline table whose brace is already taken. -/
def inlineTable (value : Reader Tree) : Reader Tree := do
  spaces
  if ← accept "\x7d" then return .table []
  let steps := (← rest).length
  return .table (entryTrees (← entriesWithin value (steps + 1) []))

/-- Takes a text, a number, a truth value or a time. -/
def scalar : Reader Tree := do
  match ← peek with
  | none => fail
  | some c => if c = '"' ∨ c = apostrophe then return .text (← quoted) else word

/-- Takes a value in which arrays and inline tables are nested at most so deep. -/
def value : Nat → Reader Tree
  | 0 => scalar
  | depth + 1 => do
    match ← peek with
    | some '[' => do
      drop 1
      return .list (← items gap (value depth) "]")
    | some '\x7b' => do
      drop 1
      inlineTable (value depth)
    | _ => scalar

end Reader

/-! ## Lines -/

/-- A document up to a line, and the table that entries are added to. -/
structure Document where
  entries : Entries
  path : List String
  deriving Repr, Inhabited

namespace Document

/-- A document of no lines. -/
def empty : Document :=
  ⟨[], []⟩

/-- Opens a table, and makes it the one that entries are added to. -/
def openWith (d : Document) (f : String → Opening → Entries → Option Entries) (path : List String) :
    Option Document := do
  let name ← path.getLast?
  return ⟨← Entries.change false (f name) path.dropLast .header d.entries, path⟩

/-- Sets a value. -/
def set (d : Document) (names : List String) (t : Tree) : Option Document := do
  return { d with
    entries := ← Entries.change false (Entries.set names t) d.path .header d.entries }

/-- Takes a header whose first bracket is already taken, and what it opens. -/
def header (d : Document) : Reader Document := do
  let isItem ← Text.Reader.accept "["
  let path ← Reader.names
  Text.Reader.expect (if isItem then "]]" else "]")
  Reader.lineEnd
  Text.Reader.need (d.openWith (if isItem then Entries.openItem else Entries.openTable) path)

/-- Takes an entry. -/
def entryLine (d : Document) : Reader Document := do
  let (names, t) ← Reader.entry (Reader.value maxDepth)
  Reader.lineEnd
  Text.Reader.need (d.set names t)

/-- Takes a line. -/
def line (d : Document) : Reader Document := do
  Reader.spaces
  match ← Text.Reader.peek with
  | none => return d
  | some c =>
    if c = '[' then
      Text.Reader.drop 1
      d.header
    else if c = '#' ∨ c = '\n' ∨ c = '\r' then
      Reader.lineEnd
      return d
    else d.entryLine

/-- Takes lines to the end, in at most so many steps. -/
def linesWithin : Nat → Document → Reader Document
  | 0, d => pure d
  | steps + 1, d => do
    match ← Text.Reader.peek with
    | none => return d
    | some _ => linesWithin steps (← d.line)

end Document

/-- The mark that a text can start with. -/
def byteOrderMark : Char := Char.ofNat 0xFEFF

/-- Reads a document; `none` if the text is none. -/
def parse? (s : String) : Option (List (String × Tree)) :=
  let cs :=
    match s.toList with
    | c :: rest => if c = byteOrderMark then rest else c :: rest
    | [] => []
  (Document.linesWithin (cs.length + 1) .empty cs).map fun (d, _) => entryTrees d.entries

end SteadyTask.Toml
