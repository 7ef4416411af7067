import Seismicity.Decimal.Shortest

/-!
# JSON Values

Values of the JSON data format, and their text.

## Main definitions

* `Json`: A value.
* `Json.render`: Its text on one line.
* `Json.renderLines`: Its text with one entry on each line.
-/

namespace Seismicity

/-- A number: whole numbers of 64 bits are kept apart from doubles. -/
inductive Number where
  | natural (n : Nat)
  | negative (n : Nat)
  | real (x : Float)
  deriving Repr, BEq

/-- A JSON value. The members of an object are in order. -/
inductive Json where
  | null
  | bool (b : Bool)
  | number (n : Number)
  | string (s : String)
  | array (items : List Json)
  | object (members : List (String × Json))

namespace Json

/-- Doubles always have a point or an exponent; the exponent is used below
    `10 ^ -5` and from `10 ^ 16` on, and has a sign. -/
def realStyle : Decimal.Style :=
  { tie := .even
    positional := fun place => -5 < place && place ≤ 16
    keepsPoint := true
    signsExponent := true }

/-- The text of a number. What is not finite has none and becomes null. -/
def renderNumber : Number → String
  | .natural n => toString n
  | .negative n => "-" ++ toString n
  | .real x => if x.isFinite then Double.text realStyle x else "null"

/-- The hexadecimal digit of a number below sixteen. -/
def hexDigit (n : Nat) : Char := Nat.digitChar n

/-- The text of a character within quotes. Quotes, backslashes and control
    characters are escaped. -/
def escape (c : Char) : List Char :=
  if c = '"' then ['\\', '"']
  else if c = '\\' then ['\\', '\\']
  else if c = '\n' then ['\\', 'n']
  else if c = '\r' then ['\\', 'r']
  else if c = '\t' then ['\\', 't']
  else if c.toNat = 8 then ['\\', 'b']
  else if c.toNat = 12 then ['\\', 'f']
  else if c.toNat < 32 then
    ['\\', 'u', '0', '0', hexDigit (c.toNat / 16), hexDigit (c.toNat % 16)]
  else [c]

/-- A string within quotes. -/
def quote (s : String) : String :=
  String.ofList ('"' :: s.toList.flatMap escape ++ ['"'])

mutual

/-- The text of a value on one line, without blanks. -/
def render : Json → String
  | .null => "null"
  | .bool b => if b then "true" else "false"
  | .number n => renderNumber n
  | .string s => quote s
  | .array items => "[" ++ ",".intercalate (renderItems items) ++ "]"
  | .object members => "\x7b" ++ ",".intercalate (renderMembers members) ++ "\x7d"

/-- The texts of a list of values. -/
def renderItems : List Json → List String
  | [] => []
  | item :: rest => render item :: renderItems rest

/-- The texts of a list of members. -/
def renderMembers : List (String × Json) → List String
  | [] => []
  | (key, value) :: rest => (quote key ++ ":" ++ render value) :: renderMembers rest

end

/-- Moves lines to the right by two places. -/
def indent (lines : List String) : List String := lines.map ("  " ++ ·)

/-- Puts text in front of the first of some lines. -/
def prepend (text : String) : List String → List String
  | [] => [text]
  | line :: rest => (text ++ line) :: rest

/-- Puts text behind the last of some lines. -/
def postpend (text : String) : List String → List String
  | [] => [text]
  | [line] => [line ++ text]
  | line :: rest => line :: postpend text rest

mutual

/-- The lines of a value, with every item and member on a line of its own. -/
def renderLines : Json → List String
  | .array [] => ["[]"]
  | .array items => "[" :: indent (itemLines items) ++ ["]"]
  | .object [] => ["\x7b\x7d"]
  | .object members => "\x7b" :: indent (memberLines members) ++ ["\x7d"]
  | .null => ["null"]
  | .bool b => [if b then "true" else "false"]
  | .number n => [renderNumber n]
  | .string s => [quote s]

/-- The lines of the items of an array. -/
def itemLines : List Json → List String
  | [] => []
  | [item] => renderLines item
  | item :: rest => postpend "," (renderLines item) ++ itemLines rest

/-- The lines of the members of an object. -/
def memberLines : List (String × Json) → List String
  | [] => []
  | [(key, value)] => prepend (quote key ++ ": ") (renderLines value)
  | (key, value) :: rest =>
    postpend "," (prepend (quote key ++ ": ") (renderLines value)) ++ memberLines rest

end

end Json

end Seismicity
