import SteadyTask.Decimal.Notation
import SteadyTask.Text.Printable

/-!
# What can be wrong with a JSON text

Each cause is a constructor and each wording is in `Fault.message`.  Texts are read from left to
right and the first fault met is the one reported.

Where in the text a fault was met is left out: the words ` at line L column C` that a parser which
counts lines and columns puts behind the wording are no part of `Fault.message`, and so of no error
text that is built from it.
-/

namespace SteadyTask.Json

/-- What a text holds in place of the expected value. -/
inductive Found where
  | null
  | bool (b : Bool)
  | int (n : Int)
  | float (x : Float)
  | str (s : String)
  | sequence
  | map
  deriving Repr

/-- How a found value is named. -/
def Found.message : Found → String
  | .null => "null"
  | .bool true => "boolean `true`"
  | .bool false => "boolean `false`"
  | .int n => "integer `" ++ toString n ++ "`"
  | .float x => "floating point `" ++ (Decimal.jsonText? x).getD (Decimal.plainText x) ++ "`"
  | .str s => "string " ++ Text.debugQuote s
  | .sequence => "sequence"
  | .map => "map"

/-- A fault in a JSON text, or in what it holds. -/
inductive Fault where
  | endInValue
  | endInString
  | endInList
  | endInObject
  | expectedValue
  | expectedWord
  | expectedColon
  | expectedCommaInList
  | expectedCommaInObject
  | trailingComma
  | trailingCharacters
  | keyNotString
  | invalidNumber
  | numberOutOfRange
  | invalidEscape
  | loneSurrogate
  | unfinishedPair
  | controlCharacter
  | tooDeep
  | wrongType (found : Found) (expected : String)
  | wrongNumber (n : Int) (expected : String)
  | wrongLength (length : Nat) (expected : String)
  | missingField (name : String)
  | duplicateField (name : String)
  | unknownField (name : String) (known : List String)
  | unknownChoice (name : String) (known : List String)
  deriving Repr

/-- Names in backticks, as a choice. -/
def oneOf : List String → String
  | [] => "there are no fields"
  | [a] => "expected `" ++ a ++ "`"
  | [a, b] => "expected `" ++ a ++ "` or `" ++ b ++ "`"
  | names => "expected one of " ++ ", ".intercalate (names.map fun n => "`" ++ n ++ "`")

/-- The wording of each fault. -/
def Fault.message : Fault → String
  | .endInValue => "EOF while parsing a value"
  | .endInString => "EOF while parsing a string"
  | .endInList => "EOF while parsing a list"
  | .endInObject => "EOF while parsing an object"
  | .expectedValue => "expected value"
  | .expectedWord => "expected ident"
  | .expectedColon => "expected `:`"
  | .expectedCommaInList => "expected `,` or `]`"
  | .expectedCommaInObject => "expected `,` or `\x7d`"
  | .trailingComma => "trailing comma"
  | .trailingCharacters => "trailing characters"
  | .keyNotString => "key must be a string"
  | .invalidNumber => "invalid number"
  | .numberOutOfRange => "number out of range"
  | .invalidEscape => "invalid escape"
  | .loneSurrogate => "lone leading surrogate in hex escape"
  | .unfinishedPair => "unexpected end of hex escape"
  | .controlCharacter => "control character (\\u0000-\\u001F) found while parsing a string"
  | .tooDeep => "recursion limit exceeded"
  | .wrongType found expected => "invalid type: " ++ found.message ++ ", expected " ++ expected
  | .wrongNumber n expected =>
    "invalid value: integer `" ++ toString n ++ "`, expected " ++ expected
  | .wrongLength length expected =>
    "invalid length " ++ toString length ++ ", expected " ++ expected
  | .missingField name => "missing field `" ++ name ++ "`"
  | .duplicateField name => "duplicate field `" ++ name ++ "`"
  | .unknownField name known => "unknown field `" ++ name ++ "`, " ++ oneOf known
  | .unknownChoice name known => "unknown variant `" ++ name ++ "`, " ++ oneOf known

end SteadyTask.Json
