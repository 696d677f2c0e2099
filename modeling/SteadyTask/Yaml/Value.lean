import SteadyTask.Config.Tree
import SteadyTask.Text.Reader

/-!
# Values of YAML nodes

A plain scalar is a number, a truth value or nothing if it looks like one, or if its tag says so;
all other scalars are texts.  Keys can be any values, and no two keys of a table are the same.  This
module has the values, and says which of them a configuration can hold.
-/

namespace SteadyTask.Yaml

open Config (Tree)

/-- What a node stands for. -/
inductive Value where
  /-- A scalar that its tag does not fit, or a node that is not complete where it is used. -/
  | unfit
  | null
  | flag (b : Bool)
  | whole (n : Int)
  /-- A binary number as it is written. -/
  | real (s : String)
  | text (s : String)
  | list (items : List Value)
  | table (entries : List (Value × Value))
  deriving Repr, Inhabited

/-! ## Scalars -/

/-- A whole number of 64 bits with digits to a base, as it stands after the mark of the base. -/
def based? (base : Nat) (cs : List Char) : Option Int :=
  let (negative, digits) :=
    match cs with
    | '-' :: rest => (true, rest)
    | '+' :: rest => (false, rest)
    | rest => (false, rest)
  let size := digits.foldlM (fun (n : Nat) c =>
    ((Text.hexNumber? [c]).filter (· < base)).map fun d => n * base + d) 0
  if digits.isEmpty then none
  else
    (size.filter fun n => n < Nat.pow 2 63 + if negative then 1 else 0).map fun n =>
      if negative then -(n : Int) else n

/-- A whole number. -/
def whole? : List Char → Option Int
  | '0' :: 'x' :: rest => (based? 16 rest).or (Decimal.readInt64? ('0' :: 'x' :: rest))
  | '0' :: 'o' :: rest => (based? 8 rest).or (Decimal.readInt64? ('0' :: 'o' :: rest))
  | '+' :: rest => (Decimal.readInt64? rest).or (Decimal.readInt64? ('+' :: rest))
  | cs => Decimal.readInt64? cs

/-- Texts that stand for a number and have no value in a configuration. -/
def unfitReals : List String :=
  [".inf", ".Inf", ".INF", "+.inf", "+.Inf", "+.INF", "-.inf", "-.Inf", "-.INF", ".nan", ".NAN"]

/-- Whether a text stands for a binary number. -/
def isReal (s : String) : Bool :=
  unfitReals.contains s || (Decimal.readFloat? s.toList).isSome

namespace Value

/-- What a plain scalar is. -/
def ofPlain (s : String) : Value :=
  match whole? s.toList with
  | some n => .whole n
  | none =>
    match s with
    | "~" | "null" => .null
    | "true" => .flag true
    | "false" => .flag false
    | s => if isReal s then .real s else .text s

/-- The start of the tags that the format itself gives a meaning. -/
def coreTags : String := "tag:yaml.org,2002:"

/-- What a plain scalar with a tag is. -/
def ofTagged (start kind s : String) : Value :=
  if start ≠ coreTags then .text s
  else
    match kind with
    | "bool" => if s = "true" then .flag true else if s = "false" then .flag false else .unfit
    | "int" => (Decimal.readInt64? s.toList).elim .unfit .whole
    | "float" => if isReal s then .real s else .unfit
    | "null" => if s = "~" ∨ s = "null" then .null else .unfit
    | _ => .text s

/-- What a scalar with or without a tag is. -/
def ofScalar (tag : Option (String × String)) (isPlain : Bool) (s : String) : Value :=
  if !isPlain then .text s
  else
    match tag with
    | some (start, kind) => ofTagged start kind s
    | none => ofPlain s

/-! ## Tables -/

mutual

/-- Whether two values are the same. -/
def same : Value → Value → Bool
  | .unfit, .unfit => true
  | .null, .null => true
  | .flag a, .flag b => a = b
  | .whole a, .whole b => a = b
  | .real a, .real b => a = b
  | .text a, .text b => a = b
  | .list as, .list bs => sameItems as bs
  | .table as, .table bs => sameEntries as bs
  | _, _ => false

/-- Whether two lists hold the same values. -/
def sameItems : List Value → List Value → Bool
  | [], [] => true
  | a :: as, b :: bs => same a b && sameItems as bs
  | _, _ => false

/-- Whether two tables hold the same entries in the same order. -/
def sameEntries : List (Value × Value) → List (Value × Value) → Bool
  | [], [] => true
  | (a, u) :: as, (b, v) :: bs => same a b && same u v && sameEntries as bs
  | _, _ => false

end

/-- Whether a value is no key. -/
def isUnfit : Value → Bool
  | .unfit => true
  | _ => false

/-- The entries that nodes make, of which each second one is a value, given the entries before them
and a key that still needs its value.  An unfit key is passed over, so that its value comes to be a
key; a key that is left over is dropped. -/
def entriesOf? : List Value → Option Value → List (Value × Value) → Option (List (Value × Value))
  | [], _, entries => some entries
  | v :: rest, none, entries => entriesOf? rest (if v.isUnfit then none else some v) entries
  | v :: rest, some k, entries =>
    if entries.any fun entry => same entry.1 k then none
    else entriesOf? rest none (entries ++ [(k, v)])

/-- The table that keys and values make. -/
def ofNodes? (nodes : List Value) : Option Value :=
  (entriesOf? nodes none []).map .table

end Value

/-! ## Trees -/

/-- Why a text is no configuration. -/
inductive Fault where
  /-- It is no YAML, or holds more than one document or a number that has no value. -/
  | malformed
  /-- It has an entry whose key is neither a text nor a whole number. -/
  | unnamed
  deriving Repr, DecidableEq

mutual

/-- A value as a tree. -/
def Value.tree : Value → Except Fault Tree
  | .unfit => .ok .absent
  | .null => .ok .absent
  | .flag b => .ok (.flag b)
  | .whole n => .ok (.whole n)
  | .real s =>
    match Decimal.readFloat? s.toList with
    | some x => .ok (.real x)
    | none => .error .malformed
  | .text s => .ok (.text s)
  | .list items => do return .list (← itemTrees items)
  | .table entries => do return Tree.ofEntries (← entryTrees entries)

/-- Values as trees. -/
def itemTrees : List Value → Except Fault (List Tree)
  | [] => .ok []
  | v :: rest => do
    let t ← v.tree
    return t :: (← itemTrees rest)

/-- Entries with their names. -/
def entryTrees : List (Value × Value) → Except Fault (List (String × Tree))
  | [] => .ok []
  | (k, v) :: rest => do
    let name ←
      match k with
      | .text s => .ok s
      | .whole n => .ok (toString n)
      | _ => .error .unnamed
    let t ← v.tree
    return (name, t) :: (← entryTrees rest)

end

end SteadyTask.Yaml
