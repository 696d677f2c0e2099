import SteadyTask.Config.Environment
import SteadyTask.Config.KeyPath
import SteadyTask.Config.Settings
import SteadyTask.Ini
import SteadyTask.Json5
import SteadyTask.Ron
import SteadyTask.Storage.Folder
import SteadyTask.Toml.Document
import SteadyTask.Yaml.Node

/-!
# Loading the settings

Sources are laid one over another: the first default file that is there, then a file named by the
user if it is there, then the environment.  Tables are merged entry by entry, everything else is
replaced.  A name at the top of a source can be a path and then leads into sections.  A file that
is there but cannot be read is a fault, and so is a setting whose value does not fit it.
-/

namespace SteadyTask.Config

open Storage (Path Place Folder)

/-! ## Files -/

/-- How a file is written. -/
inductive Format where
  | toml
  | json
  | yaml
  | ini
  | ron
  | json5
  deriving Repr, DecidableEq

/-- What the name of a file ends in, and what that means. -/
def formats : List (String × Format) :=
  [("toml", .toml), ("json", .json), ("yaml", .yaml), ("yml", .yaml), ("ini", .ini), ("ron", .ron),
    ("json5", .json5)]

/-- What follows the last dot of a name, if something stands before the dot. -/
def extension? (name : String) : Option String :=
  match (name.splitOn ".").reverse with
  | last :: before :: more => if more.isEmpty && before = "" then none else some last
  | _ => none

mutual

/-- A JSON value as a tree.  A whole number beyond 63 bits becomes a binary number. -/
def Tree.ofJson : Json.Value → Tree
  | .null => .absent
  | .bool b => .flag b
  | .int n => if n < Nat.pow 2 63 then .whole n else .real (Float.ofInt n)
  | .float x => .real x
  | .str s => .text s
  | .arr items => .list (treesOfJson items)
  | .obj fields => .table (entriesOfJson fields)

/-- JSON values as trees. -/
def treesOfJson : List Json.Value → List Tree
  | [] => []
  | v :: rest => Tree.ofJson v :: treesOfJson rest

/-- JSON fields as entries. -/
def entriesOfJson : List (String × Json.Value) → List (String × Tree)
  | [] => []
  | (name, v) :: rest => (name, Tree.ofJson v) :: entriesOfJson rest

end

/-- Why a text gives no settings. -/
inductive TextFault where
  /-- It is not written in its format, or is no table. -/
  | malformed
  /-- It has an entry without a name. -/
  | unnamed
  deriving Repr, DecidableEq

/-- The tree that a text writes. -/
def Format.tree (format : Format) (text : String) : Except TextFault Tree :=
  match format with
  | .toml => found ((Toml.parse? text).map Tree.table)
  | .json => found ((Json.parse text).toOption.map Tree.ofJson)
  | .yaml => (Yaml.parse text).mapError fun
    | .malformed => .malformed
    | .unnamed => .unnamed
  | .ini => found (Ini.parse? text)
  | .ron => found (Ron.parse? text)
  | .json5 => found (Json5.parse? text)
where
  /-- What there is, or the fault of a text that is not written in its format. -/
  found : Option Tree → Except TextFault Tree
    | some t => .ok t
    | none => .error .malformed

/-- Reads the text of a file, which has to write a table. -/
def Format.read (format : Format) (text : String) : Except TextFault (List (String × Tree)) :=
  match format.tree text with
  | .ok (.table entries) => .ok entries
  | .ok _ => .error .malformed
  | .error e => .error e

/-- The file that a path means: the one it leads to, if the name has a known ending, or if it leads
to none, one with an ending added. -/
def locate? (folder : Folder) (p : Path) : Option (Path × Format) :=
  if (folder.textAt? p).isSome then
    ((p.names.getLast?.bind extension?).bind fun e => formats.lookup e).map fun format =>
      (p, format)
  else
    formats.findSome? fun (ending, format) =>
      ((p.withEnding? ending).filter fun p => (folder.textAt? p).isSome).map fun p => (p, format)

/-! ## Loading -/

/-- Why settings cannot be loaded. -/
inductive LoadFault where
  /-- A file gives no settings. -/
  | unreadable (file : Path) (e : TextFault)
  /-- A name counts from the end of a list to a place before its first item. -/
  | misplaced
  /-- A setting has a value that cannot be converted, or lacks one. -/
  | unfit
  deriving Repr, DecidableEq

/-- What is said of a fault that breaks the loading off instead of being its result. -/
def LoadFault.breakdown? : LoadFault → Option String
  | .unreadable _ .unnamed => some "internal error: entered unreachable code"
  | .misplaced => some "attempt to subtract with overflow"
  | .unreadable _ .malformed | .unfit => none

/-- The default files, without their ending, in the order in which they are looked for. -/
def defaultNames : List String :=
  ["config/default", "../config/default", "default"]

/-- The path of the default file. -/
def defaultPath? (folder : Folder) (place : Place) : Option Path :=
  (defaultNames.find? fun name => folder.contains (place.path (name ++ ".toml"))).map place.path

/-- The path of the file named by the user, if something is there. -/
def namedPath? (folder : Folder) (place : Place) (name : Option String) : Option Path :=
  ((name.filter (· ≠ "")).map place.path).filter folder.contains

/-- Lays a source over a tree. -/
def overlay (below : Tree) (source : List (String × Tree)) : Except LoadFault Tree :=
  match overlaySource below source with
  | some t => .ok t
  | none => .error .misplaced

/-- Lays files over a tree; files of no known format are passed over. -/
def overlayFiles (folder : Folder) : List Path → Tree → Except LoadFault Tree
  | [], below => .ok below
  | p :: rest, below =>
    match locate? folder p with
    | none => overlayFiles folder rest below
    | some (file, format) => do
      let source ← (format.read ((folder.textAt? file).getD "")).mapError (.unreadable file)
      overlayFiles folder rest (← overlay below source)

/-- Loads the settings, seen from a place in a folder. -/
def load (folder : Folder) (place : Place) (name : Option String)
    (environment : List (String × String)) : Except LoadFault Settings := do
  let paths := (defaultPath? folder place).toList ++ (namedPath? folder place name).toList
  let tree ← overlay (← overlayFiles folder paths (.table [])) (ofVariables environment)
  match Settings.layout.ofTree? tree with
  | none => .error .unfit
  | some settings => .ok settings

end SteadyTask.Config
