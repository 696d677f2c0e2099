/-!
# JSON values

A whole number that fits in 64 bits, signed or not, stays a whole number; every other number is a
binary one.  An object that is read from a text has its fields sorted by name and holds a name
once; one that is built to be written can have its fields in any order.
-/

namespace SteadyTask.Json

/-- A JSON value. -/
inductive Value where
  | null
  | bool (b : Bool)
  | int (n : Int)
  | float (x : Float)
  | str (s : String)
  | arr (items : List Value)
  | obj (fields : List (String × Value))
  deriving BEq, Repr, Inhabited

/-- Sets a field in a list of fields that is sorted by name. -/
def setField (name : String) (v : Value) : List (String × Value) → List (String × Value)
  | [] => [(name, v)]
  | (other, w) :: rest =>
    if name = other then (name, v) :: rest
    else if name < other then (name, v) :: (other, w) :: rest
    else (other, w) :: setField name v rest

namespace Value

/-- The object with these fields; of two with one name the later counts. -/
def ofFields (fields : List (String × Value)) : Value :=
  .obj (fields.foldl (fun sorted field => setField field.1 field.2 sorted) [])

/-- The field of an object with a given name. -/
def get? (name : String) : Value → Option Value
  | .obj fields => fields.lookup name
  | _ => none

/-- The text of a string value. -/
def asStr? : Value → Option String
  | .str s => some s
  | _ => none

/-- The value of something that may be absent. -/
def ofOption {α : Type} (write : α → Value) : Option α → Value
  | none => .null
  | some a => write a

/-- The array of the values of a list. -/
def ofList {α : Type} (write : α → Value) (items : List α) : Value :=
  .arr (items.map write)

/-- A natural number. -/
def ofNat (n : Nat) : Value :=
  .int n

/-- A text that may be absent. -/
def ofText? : Option String → Value :=
  ofOption .str

end Value

end SteadyTask.Json
