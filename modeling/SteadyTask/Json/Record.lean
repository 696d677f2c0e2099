import SteadyTask.Json.Reader

/-!
# Reading records

A record is read from an object, field by field in the order of the text, or from an array that
holds its fields in their own order.  A field that is given twice is a fault, and so is a field
that is not known where the record is strict; otherwise unknown fields are passed over.
-/

namespace SteadyTask.Json

/-- Whether a record can do without a field. -/
inductive Need where
  /-- It must be there. -/
  | required
  /-- An object may lack it, an array may not. -/
  | optional
  /-- It has a default. -/
  | defaulted
  deriving Repr, DecidableEq

/-- A field of a record: how its value is read into the record. -/
structure Field (σ : Type) where
  name : String
  need : Need
  read : Nat → σ → Reader σ

/-- What a record looks like. -/
structure Shape (σ : Type) where
  name : String
  fields : List (Field σ)
  strict : Bool
  start : σ

namespace Reader

/-- The fault for a value of another type than expected; a value with a fault of its own reports
that. -/
def wrongType {α : Type} (expected : String) : Reader α := do
  match ← token with
  | none => throw .expectedValue
  | some 'n' => skip; word "ull".toList; throw (.wrongType .null expected)
  | some 't' => skip; word "rue".toList; throw (.wrongType (.bool true) expected)
  | some 'f' => skip; word "alse".toList; throw (.wrongType (.bool false) expected)
  | some '"' => skip; throw (.wrongType (.str (← text)) expected)
  | some '[' => throw (.wrongType .sequence expected)
  | some '\x7b' => throw (.wrongType .map expected)
  | some c =>
    let found : Number → Found
      | .whole n => .int n
      | .real x => .float x
    if c = '-' then
      skip
      throw (.wrongType (found (← number false)) expected)
    else if Decimal.isDigit c then throw (.wrongType (found (← number true)) expected)
    else throw .expectedValue

/-- Fails at the end of the text. -/
def needToken : Reader Char := do
  match ← token with
  | none => throw .endInValue
  | some c => return c

/-- Reads a text that goes by a given name where it is missing. -/
def strNamed (expected : String) : Reader String := do
  if (← needToken) = '"' then skip; text else wrongType expected

/-- Reads a text. -/
def str : Reader String :=
  strNamed "a string"

/-- Reads a boolean. -/
def flag : Reader Bool := do
  match ← needToken with
  | 't' => skip; word "rue".toList; return true
  | 'f' => skip; word "alse".toList; return false
  | _ => wrongType "a boolean"

/-- Reads any number, or fails with what was expected. -/
def numeral (expected : String) : Reader Number := do
  let c ← needToken
  if c = '-' then skip; number false
  else if Decimal.isDigit c then number true
  else wrongType expected

/-- Reads a natural number of so many bits. -/
def word? (bits : Nat) : Reader Nat := do
  let expected := "u" ++ toString bits
  match ← numeral expected with
  | .whole n =>
    if 0 ≤ n ∧ n < Nat.pow 2 bits then return n.toNat else throw (.wrongNumber n expected)
  | .real x => throw (.wrongType (.float x) expected)

/-- Reads a binary number. -/
def real : Reader Float := do
  match ← numeral "f64" with
  | .whole n => return Float.ofInt n
  | .real x => return x

/-- Reads a value, or `null` in its place. -/
def optional {α : Type} (read : Reader α) : Reader (Option α) := do
  if (← token) = some 'n' then
    skip
    word "ull".toList
    return none
  else return some (← read)

/-- Reads one of some words. -/
def choice (words : List String) : Reader String := do
  if (← needToken) = '"' then
    skip
    let word ← text
    if word ∈ words then return word else throw (.unknownChoice word words)
  else throw .expectedValue

/-- Reads a list of items. -/
def list {α : Type} (read : Nat → Reader α) (depth : Nat) : Reader (List α) := do
  match ← needToken, depth with
  | '[', 0 => throw .tooDeep
  | '[', depth + 1 =>
    skip
    let reversed ← items (fun acc => do return (← read depth) :: acc) []
    closeList
    return reversed.reverse
  | _, _ => wrongType "a sequence"

/-- Reads fields in their own order from the items of an array. -/
def positionalFields {σ : Type} (shape : Shape σ) (depth : Nat) :
    Nat → List (Field σ) → Bool → σ → Reader σ
  | _, [], _, acc => pure acc
  | index, field :: rest, first, acc => do
    if ← nextItem first then
      positionalFields shape depth (index + 1) rest false (← field.read depth acc)
    else
      match field.need with
      | .defaulted => positionalFields shape depth (index + 1) rest first acc
      | _ =>
        let count := shape.fields.length
        throw (.wrongLength index
          (shape.name ++ " with " ++ toString count ++
            (if count = 1 then " element" else " elements")))

/-- Reads one named field; the names already read come with the record. -/
def namedField {σ : Type} (shape : Shape σ) (depth : Nat) (name : String) (acc : List String × σ) :
    Reader (List String × σ) := do
  match shape.fields.find? (fun field => field.name == name) with
  | some field =>
    if name ∈ acc.1 then throw (.duplicateField name)
    colon
    return (name :: acc.1, ← field.read depth acc.2)
  | none =>
    if shape.strict then throw (.unknownField name (shape.fields.map Field.name))
    colon
    passValue
    return acc

/-- Reads a record. -/
def record {σ : Type} (shape : Shape σ) (depth : Nat) : Reader σ := do
  match ← needToken, depth with
  | '[', 0 => throw .tooDeep
  | '\x7b', 0 => throw .tooDeep
  | '[', depth + 1 =>
    skip
    let result ← positionalFields shape depth 0 shape.fields true shape.start
    closeList
    return result
  | '\x7b', depth + 1 =>
    skip
    let (seen, result) ← fields (namedField shape depth) ([], shape.start)
    match shape.fields.find? (fun field => field.need == .required && !(field.name ∈ seen)) with
    | some field => throw (.missingField field.name)
    | none =>
      closeObject
      return result
  | _, _ => wrongType shape.name

end Reader

/-- Reads a text that holds one record. -/
def parseRecord {σ : Type} (shape : Shape σ) (s : String) : Except Fault σ :=
  (Reader.record shape maxDepth).run s

end SteadyTask.Json
