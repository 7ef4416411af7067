import Seismicity.Json.Value
import Seismicity.Quoting.Basic

/-!
# Errors of JSON Text

Why a text cannot be read. A text that is not JSON has a fault at some place;
a text that is JSON may still not hold the data that is asked for.

## Main definitions

* `Json.Fault`: Why a text is not JSON.
* `Json.Kind`: What was found in place of the data asked for.
* `Json.Error`: Why data cannot be read from a text.
-/

namespace Seismicity

namespace Json

/-- Why a text is not JSON. -/
inductive Fault where
  | endInValue
  | endInList
  | endInObject
  | endInString
  | noValue
  | literal
  | noColon
  | listSeparator
  | objectSeparator
  | trailingComma
  | trailingText
  | key
  | number
  | range
  | escape
  | control
  | surrogate
  | unpaired
  | depth
  deriving DecidableEq, Repr

/-- The text ended before the value did. -/
def Fault.isEnd : Fault → Bool
  | .endInValue | .endInList | .endInObject | .endInString => true
  | _ => false

/-- The wording of a fault. -/
def Fault.message : Fault → String
  | .endInValue => "EOF while parsing a value"
  | .endInList => "EOF while parsing a list"
  | .endInObject => "EOF while parsing an object"
  | .endInString => "EOF while parsing a string"
  | .noValue => "expected value"
  | .literal => "expected ident"
  | .noColon => "expected `:`"
  | .listSeparator => "expected `,` or `]`"
  | .objectSeparator => "expected `,` or `\x7d`"
  | .trailingComma => "trailing comma"
  | .trailingText => "trailing characters"
  | .key => "key must be a string"
  | .number => "invalid number"
  | .range => "number out of range"
  | .escape => "invalid escape"
  | .control => "control character (\\u0000-\\u001F) found while parsing a string"
  | .surrogate => "lone leading surrogate in hex escape"
  | .unpaired => "unexpected end of hex escape"
  | .depth => "recursion limit exceeded"

/-- What was found in place of the data asked for. -/
inductive Kind where
  | null
  | bool (b : Bool)
  | number (n : Number)
  | string (s : String)
  | sequence
  | map
  | unitVariant
  deriving Repr

/-- The wording of what was found. -/
def Kind.message : Kind → String
  | .null => "null"
  | .bool b => "boolean `" ++ (if b then "true" else "false") ++ "`"
  | .number (.real x) => "floating point `" ++ renderNumber (.real x) ++ "`"
  | .number n => "integer `" ++ renderNumber n ++ "`"
  | .string s => "string " ++ Quoting.quote s
  | .sequence => "sequence"
  | .map => "map"
  | .unitVariant => "unit variant"

/-- Why data cannot be read from a text. -/
inductive Error where
  | fault (fault : Fault)
  | missingField (name : String)
  | duplicateField (name : String)
  | unknownVariant (name : String) (known : List String)
  | invalidType (found : Kind) (expected : String)
  | invalidValue (found : Kind) (expected : String)
  | invalidLength (length : Nat) (expected : String)
  deriving Repr

/-- A list of alternatives, as messages show it. -/
def oneOf (names : List String) : String :=
  let quoted := names.map fun name => "`" ++ name ++ "`"
  match quoted with
  | [a, b] => a ++ " or " ++ b
  | [a] => a
  | _ => "one of " ++ ", ".intercalate quoted

/-- The wording of an error. -/
def Error.message : Error → String
  | .fault f => f.message
  | .missingField name => "missing field `" ++ name ++ "`"
  | .duplicateField name => "duplicate field `" ++ name ++ "`"
  | .unknownVariant name known => "unknown variant `" ++ name ++ "`, expected " ++ oneOf known
  | .invalidType found expected => "invalid type: " ++ found.message ++ ", expected " ++ expected
  | .invalidValue found expected => "invalid value: " ++ found.message ++ ", expected " ++ expected
  | .invalidLength length expected =>
    "invalid length " ++ toString length ++ ", expected " ++ expected

end Json

end Seismicity
