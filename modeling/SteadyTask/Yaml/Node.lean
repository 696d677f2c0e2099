import SteadyTask.Yaml.Layout
import SteadyTask.Yaml.Value

/-!
# YAML documents

A text is at most one document, and a document is one node: a scalar, a list, a table, or the name
of an earlier node.  Nodes are read from tokens here, and `parse` reads a whole text.
-/

namespace SteadyTask.Yaml

open Config (Tree)

/-- Tokens that are left, and what is known from those before. -/
structure Tokens where
  rest : List Token
  /-- What the handles of tags stand for. -/
  handles : List (String × String)
  /-- The names of nodes, the latest first, each with the number of its node. -/
  names : List (String × Nat)
  /-- The named nodes that are complete, by their numbers. -/
  nodes : List (Nat × Value)
  deriving Repr, Inhabited

/-- Takes tokens and gives what they make. -/
abbrev Parser (α : Type) := StateT Tokens Option α

namespace Parser

/-! ## Steps -/

/-- Fails. -/
def fail {α : Type} : Parser α := fun _ => none

/-- What there is, or a failure. -/
def need {α : Type} (found : Option α) : Parser α := fun s => found.map fun a => (a, s)

/-- The next token, which stays in place. -/
def peek : Parser (Option Token) := return (← get).rest.head?

/-- Drops the next token. -/
def skip : Parser Unit :=
  modify fun s => { s with rest := s.rest.drop 1 }

/-- Drops the next token if it is a given one; says whether it was. -/
def accept (t : Token) : Parser Bool := do
  if (← peek) = some t then
    skip
    return true
  else return false

/-- Drops the next token, which has to be a given one. -/
def expect (t : Token) : Parser Unit := do
  if !(← accept t) then fail

/-- Whether one of some tokens comes next. -/
def isNext (ts : List Token) : Parser Bool := do
  return (← peek).any ts.contains

/-- Takes a node, or nothing if one of some tokens comes next. -/
def orNull (ts : List Token) (node : Parser Value) : Parser Value := do
  if ← isNext ts then return .null else node

/-! ## Properties of nodes -/

/-- What can stand before a node: the number that its name gives it, and its tag. -/
structure Properties where
  number : Option Nat
  tag : Option (String × String)
  deriving Repr, DecidableEq, Inhabited

/-- What a tag stands for: a handle that was declared stands for its meaning. -/
def meaning? (handles : List (String × String)) (handle suffix : String) :
    Option (String × String) :=
  match handles.lookup handle with
  | some meaning => some (meaning, suffix)
  | none =>
    if handle = "!!" then some (Value.coreTags, suffix)
    else if isHandle handle.toList then none
    else some (handle, suffix)

/-- Takes the name of the node that follows, if there is one. -/
def number? : Parser (Option Nat) := do
  match ← peek with
  | some (.anchor name) =>
    skip
    let number := (← get).names.length
    modify fun s => { s with names := (name, number) :: s.names }
    return some number
  | _ => return none

/-- Takes the tag of the node that follows, if there is one. -/
def tag? : Parser (Option (String × String)) := do
  match ← peek with
  | some (.tag handle suffix) =>
    skip
    return some (← need (meaning? (← get).handles handle suffix))
  | _ => return none

/-- Takes what stands before a node, in either order. -/
def properties : Parser Properties := do
  match ← number? with
  | some number => return ⟨some number, ← tag?⟩
  | none =>
    match ← tag? with
    | some tag => return ⟨← number?, some tag⟩
    | none => return ⟨none, none⟩

/-- Completes a node: its name stands for it from here on. -/
def complete (p : Properties) (v : Value) : Parser Value := do
  modify fun s => { s with nodes := (p.number.map fun number => (number, v)).toList ++ s.nodes }
  return v

/-- The node with a name; one that is not complete is unfit. -/
def earlier (name : String) : Parser Value := do
  let s ← get
  let number ← need (s.names.lookup name)
  return (s.nodes.lookup number).getD .unfit

/-! ## Collections in lines -/

/-- Takes the items of a list, each after its dash, in at most so many steps. -/
def items (node : Parser Value) : Nat → Parser (List Value)
  | 0 => fail
  | steps + 1 => do
    if ← accept .linesEnd then return []
    expect .item
    let v ← orNull [.item, .linesEnd] node
    return v :: (← items node steps)

/-- Takes the items of a list whose dashes stand in the column of the key that it belongs to, in at
most so many steps. -/
def looseItems (node : Parser Value) : Nat → Parser (List Value)
  | 0 => fail
  | steps + 1 => do
    if ← accept .item then
      let v ← orNull [.item, .key, .value, .linesEnd] node
      return v :: (← looseItems node steps)
    else return []

/-- Takes the keys and values of a table, in at most so many steps; each of both can be left out. -/
def entries (node : Parser Value) : Nat → Parser (List Value)
  | 0 => fail
  | steps + 1 => do
    if ← accept .linesEnd then return []
    let k ←
      if ← accept .key then orNull [.key, .value, .linesEnd] node
      else if ← isNext [.value] then pure .null
      else fail
    let v ← if ← accept .value then orNull [.key, .value, .linesEnd] node else pure .null
    return k :: v :: (← entries node steps)

/-! ## Collections in brackets -/

/-- Takes the value after a colon, if there is a colon; the sign that closes the table can follow
it. -/
def valueBefore (close : Token) (node : Parser Value) : Parser Value := do
  if ← accept .value then orNull [.comma, close] node else return .null

/-- Takes a key and a value that stand for a table of their own among the items of a list, after
the sign for the key.  What stands in the place of a missing key is dropped. -/
def pair (node : Parser Value) : Parser Value := do
  let k ←
    if ← isNext [.value, .comma, .closeList] then
      skip
      pure .null
    else node
  let v ← valueBefore .closeList node
  need (Value.ofNodes? [k, v])

/-- Takes the items of a list up to its bracket, in at most so many steps. -/
def flowItems (node : Parser Value) : Nat → Bool → Parser (List Value)
  | 0, _ => fail
  | steps + 1, isFirst => do
    if ← accept .closeList then return []
    if !isFirst then expect .comma
    if ← accept .closeList then return []
    let v ← if ← accept .key then pair node else node
    return v :: (← flowItems node steps false)

/-- Takes the keys and values of a table up to its brace, in at most so many steps. -/
def flowEntries (node : Parser Value) : Nat → Bool → Parser (List Value)
  | 0, _ => fail
  | steps + 1, isFirst => do
    if ← accept .closeTable then return []
    if !isFirst then expect .comma
    if ← accept .closeTable then return []
    let (k, v) ←
      if ← accept .key then
        let k ← orNull [.value, .comma, .closeTable] node
        pure (k, ← valueBefore .closeTable node)
      else if ← isNext [.value] then
        pure (.null, ← valueBefore .closeTable node)
      else pure (← node, .null)
    return k :: v :: (← flowEntries node steps false)

/-! ## Nodes -/

/-- Takes a node in which others are nested at most so deep, given whether it can be a collection in
lines, and whether it can be a list in the column of its key. -/
def node : Nat → Bool → Bool → Parser Value
  | 0, _, _ => fail
  | depth + 1, inLines, canBeLoose => do
    if let some (.earlier name) ← peek then
      skip
      return ← earlier name
    let p ← properties
    let steps := (← get).rest.length + 1
    let v ← match ← peek with
      | some (.scalar isPlain s) => do
        skip
        pure (Value.ofScalar p.tag isPlain s)
      | some .openList => do
        skip
        pure (.list (← flowItems (node depth false false) steps true))
      | some .openTable => do
        skip
        need (Value.ofNodes? (← flowEntries (node depth false false) steps true))
      | t => do
        if t = some .item && canBeLoose then
          pure (.list (← looseItems (node depth true false) steps))
        else if t = some .listStart && inLines then do
          skip
          pure (.list (← items (node depth true false) steps))
        else if t = some .tableStart && inLines then do
          skip
          need (Value.ofNodes? (← entries (node depth true true) steps))
        else if p = ⟨none, none⟩ then fail
        else pure (Value.ofScalar p.tag true "")
    complete p v

/-! ## Documents -/

/-- Drops the marks that end documents, at most so many. -/
def endMarks : Nat → Parser Unit
  | 0 => pure ()
  | steps + 1 => do
    if ← accept .documentEnd then endMarks steps

/-- Takes directives, at most so many, given whether one of them has told the version.  Of several
only the last one counts. -/
def directives : Nat → Bool → Parser Unit
  | 0, _ => pure ()
  | steps + 1, hasVersion => do
    match ← peek with
    | some .version =>
      if hasVersion then fail
      skip
      modify fun s => { s with handles := [] }
      directives steps true
    | some (.handle handle meaning) =>
      skip
      modify fun s => { s with handles := [(handle, meaning)] }
      directives steps hasVersion
    | _ => pure ()

/-- Takes the mark that starts a document, with the directives before it; says whether there is
one. -/
def startMark : Parser Bool := do
  let steps := (← get).rest.length
  directives steps false
  if ← accept .documentStart then return true
  if (← get).rest.length < steps then fail else return false

/-- Takes the only document of a text; a text without one is a table without entries. -/
def document : Parser Value := do
  let steps := (← get).rest.length + 1
  endMarks steps
  if (← peek).isNone then return .table []
  let isMarked ← startMark
  let v ←
    if isMarked && ((← peek).isNone || (← isNext [.documentStart, .documentEnd])) then pure .null
    else node steps true false
  endMarks steps
  if (← peek).isSome then fail else return v

end Parser

/-- Reads a document. -/
def parse (s : String) : Except Fault Tree :=
  match (tokens? s).bind fun ts => Parser.document ⟨ts, [], [], []⟩ with
  | some (v, _) => v.tree
  | none => .error .malformed

end SteadyTask.Yaml
