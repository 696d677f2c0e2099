import SteadyTask.Config.Tree
import SteadyTask.Text.Search

/-!
# Configuration from the environment

Variables whose names start with the prefix of the program set values; in the rest of the name two
underscores lead into a section.  Names are read in any letter case.  What a value looks like
decides its type: a truth value, a whole number, a binary number, or else a text.
-/

namespace SteadyTask.Config

/-- What the names of variables start with, in lower case. -/
def variableStart : String := "homeostat__"

/-- What leads into a section. -/
def variableSeparator : String := "__"

/-- The value of a variable. -/
def variableTree (value : String) : Tree :=
  let word := Text.lower value
  if word = "true" then .flag true
  else if word = "false" then .flag false
  else
    match Decimal.readInt64? value.toList, Decimal.readFloat? value.toList with
    | some n, _ => .whole n
    | none, some x => .real x
    | none, none => .text value

/-- The dotted name that a variable sets, if it is one of the program's. -/
def variableKey? (name : String) : Option String :=
  (Text.afterStart? variableStart.toList (Text.lower name).toList).map fun rest =>
    Text.join "." ((String.ofList rest).splitOn variableSeparator)

/-- The name of the variable that sets what some names lead to. -/
def variableName (names : List String) : String :=
  (variableStart ++ Text.join variableSeparator names).toUpper

/-- What variables set, in their order. -/
def ofVariables (environment : List (String × String)) : List (String × Tree) :=
  environment.filterMap fun (name, value) =>
    (variableKey? name).map fun key => (key, variableTree value)

end SteadyTask.Config
