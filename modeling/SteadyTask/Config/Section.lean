import SteadyTask.Config.Tree
import SteadyTask.Json.Record

/-!
# Sections of settings

A section is a record of settings.  It is described once, and the description says how it is read
from JSON, where every value has to have the right type, and from a configuration tree, where
values are converted.  Unknown names are passed over in both.
-/

namespace SteadyTask.Config

/-- How the value of a setting is read, and which names lead to the single values in it. -/
structure Kind (α : Type) where
  names : List (List String)
  ofJson : Nat → Json.Reader α
  ofTree? : Tree → Option α

namespace Kind

/-- A text. -/
def text : Kind String :=
  ⟨[[]], fun _ => Json.Reader.str, Tree.toText?⟩

/-- The path of a file. -/
def path : Kind String :=
  ⟨[[]], fun _ => Json.Reader.strNamed "path string", Tree.toText?⟩

/-- A truth value. -/
def flag : Kind Bool :=
  ⟨[[]], fun _ => Json.Reader.flag, Tree.toFlag?⟩

/-- A natural number of so many bits. -/
def word (bits : Nat) : Kind Nat :=
  ⟨[[]], fun _ => Json.Reader.word? bits, Tree.toWord? bits⟩

/-- A binary number. -/
def real : Kind Float :=
  ⟨[[]], fun _ => Json.Reader.real, Tree.toReal?⟩

/-- A value that may be absent. -/
def orAbsent {α : Type} (k : Kind α) : Kind (Option α) where
  names := k.names
  ofJson depth := Json.Reader.optional (k.ofJson depth)
  ofTree?
    | .absent => some none
    | t => (k.ofTree? t).map some

end Kind

/-- A setting of a section with values in `σ`. -/
structure Setting (σ : Type) where
  name : String
  names : List (List String)
  need : Json.Need
  ofJson : Nat → σ → Json.Reader σ
  ofTree? : Tree → σ → Option σ

/-- A setting of a given kind, and how it is entered into its section. -/
def Setting.of {σ α : Type} (name : String) (need : Json.Need) (k : Kind α) (enter : σ → α → σ) :
    Setting σ where
  name := name
  names := k.names.map (name :: ·)
  need := need
  ofJson depth s := do return enter s (← k.ofJson depth)
  ofTree? t s := (k.ofTree? t).map (enter s)

/-- The description of a section.  What it starts from holds the defaults. -/
structure Layout (σ : Type) where
  name : String
  settings : List (Setting σ)
  start : σ

namespace Layout

variable {σ : Type}

/-- How a section is written in JSON. -/
def shape (l : Layout σ) : Json.Shape σ where
  name := "struct " ++ l.name
  fields := l.settings.map fun s => ⟨s.name, s.need, s.ofJson⟩
  strict := false
  start := l.start

/-- Reads settings from the entries of a table. -/
def ofEntries? (settings : List (Setting σ)) (entries : List (String × Tree)) (s : σ) : Option σ :=
  match settings with
  | [] => some s
  | setting :: rest =>
    match entries.lookup setting.name with
    | some t => (setting.ofTree? t s).bind (ofEntries? rest entries)
    | none => if setting.need == .required then none else ofEntries? rest entries s

/-- Reads settings from a list that holds them in their own order; more items do not matter. -/
def ofItems? : List (Setting σ) → List Tree → σ → Option σ
  | [], _, s => some s
  | setting :: rest, t :: items, s => (setting.ofTree? t s).bind (ofItems? rest items)
  | setting :: rest, [], s => if setting.need == .defaulted then ofItems? rest [] s else none

/-- Reads a section from a tree. -/
def ofTree? (l : Layout σ) : Tree → Option σ
  | .table entries => ofEntries? l.settings entries l.start
  | .list items => ofItems? l.settings items l.start
  | _ => none

/-- A section as the value of a setting. -/
def kind (l : Layout σ) : Kind σ :=
  ⟨l.settings.flatMap Setting.names, Json.Reader.record l.shape, l.ofTree?⟩

end Layout

end SteadyTask.Config
