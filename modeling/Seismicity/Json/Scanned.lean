import Seismicity.Json.Numeral

/-!
# Scanned JSON

What a text holds, up to its first fault. A scan never fails: where the text
stops being JSON, the tree says so, and data is then read from the tree in
the order of the text. So the first error in the text is the one that is
found, whether it is a fault or data of the wrong kind.

A value that is not asked for is skipped, which is more lenient than reading
it: numbers may be out of range, escapes need not pair up, and nesting has no
limit.

## Main definitions

* `Json.Scanned`: The tree of a text.
* `Json.Scanned.skip`: Skipping a value.
* `Json.Scanned.keep`: Reading a value of any kind.
* `Json.scan`: The tree of a text, and the text after it.
* `Json.read?`: The value of a text.
-/

namespace Seismicity

namespace Json

/-- How the entries of an array or an object end. -/
inductive Ending where
  /-- With its bracket. -/
  | closed
  /-- The text ends where a comma or the bracket is due. -/
  | cut
  /-- The text ends after a comma. -/
  | cutAfterComma
  /-- The bracket comes after a comma. -/
  | trailingComma
  /-- Neither a comma nor the bracket. -/
  | junk
  /-- Something that is not a string, in place of a key. -/
  | badKey

/-- What a text holds, up to its first fault. -/
inductive Scanned where
  | null
  | bool (b : Bool)
  /-- A numeral, which may be out of range. -/
  | number (value : Except Fault Number)
  /-- A string, whose escapes may not pair up. -/
  | string (text : Except Fault String)
  | array (items : List Scanned) (ending : Ending)
  | object (members : List (Except Fault String × Scanned)) (ending : Ending)
  /-- An array or object that is nested too deeply to be read. -/
  | deep (inner : Scanned)
  /-- A literal name or a numeral with a fault, as it shows when the value is
      read and when it is skipped. -/
  | word (read skipped : Fault)
  /-- Any other fault, as it shows when the value is read and when it is
      skipped. -/
  | broken (read skipped : Fault)

namespace Ending

/-- The fault that shows when another item of an array is asked for. -/
def itemFault? : Ending → Option Fault
  | .closed => none
  | .cut => some .endInList
  | .cutAfterComma => some .endInValue
  | .trailingComma => some .trailingComma
  | .junk => some .listSeparator
  | .badKey => some .key

/-- The fault that shows when the end of an array is asked for. -/
def listEndFault? : Ending → Option Fault
  | .closed => none
  | .cut => some .endInList
  | .trailingComma => some .trailingComma
  | _ => some .trailingText

/-- The fault that shows when another member of an object is asked for. -/
def memberFault? : Ending → Option Fault
  | .closed => none
  | .cut => some .endInObject
  | .cutAfterComma => some .endInValue
  | .trailingComma => some .trailingComma
  | .junk => some .objectSeparator
  | .badKey => some .key

/-- The fault that shows when the end of an object is asked for. -/
def objectEndFault? : Ending → Option Fault
  | .closed => none
  | .cut => some .endInObject
  | _ => some .noValue

/-- The fault that shows when an array is skipped. -/
def skippedListFault? : Ending → Option Fault
  | .trailingComma => some .noValue
  | ending => ending.itemFault?

/-- The fault that shows when an object is skipped. -/
def skippedObjectFault? : Ending → Option Fault
  | .cutAfterComma => some .endInObject
  | .trailingComma => some .key
  | ending => ending.memberFault?

end Ending

/-- Nothing, unless there is a fault. -/
def unless? : Option Fault → Except Fault Unit
  | none => .ok ()
  | some fault => .error fault

namespace Scanned

mutual

/-- Skips a value. -/
def skip : Scanned → Except Fault Unit
  | .array items ending =>
    match skipItems items with
    | .error fault => .error fault
    | .ok _ => unless? ending.skippedListFault?
  | .object members ending =>
    match skipMembers members with
    | .error fault => .error fault
    | .ok _ => unless? ending.skippedObjectFault?
  | .deep inner => skip inner
  | .word _ skipped => .error skipped
  | .broken _ skipped => .error skipped
  | _ => .ok ()

/-- Skips the items of an array. -/
def skipItems : List Scanned → Except Fault Unit
  | [] => .ok ()
  | item :: rest =>
    match skip item with
    | .error fault => .error fault
    | .ok _ => skipItems rest

/-- Skips the members of an object. -/
def skipMembers : List (Except Fault String × Scanned) → Except Fault Unit
  | [] => .ok ()
  | (_, value) :: rest =>
    match skip value with
    | .error fault => .error fault
    | .ok _ => skipMembers rest

end

mutual

/-- Reads a value of any kind, for later use. -/
def keep : Scanned → Except Fault Unit
  | .null => .ok ()
  | .bool _ => .ok ()
  | .number (.ok _) => .ok ()
  | .number (.error fault) => .error fault
  | .string (.ok _) => .ok ()
  | .string (.error fault) => .error fault
  | .array items ending =>
    match keepItems items with
    | .error fault => .error fault
    | .ok _ => unless? ending.itemFault?
  | .object members ending =>
    match keepMembers members with
    | .error fault => .error fault
    | .ok _ => unless? ending.memberFault?
  | .deep _ => .error .depth
  | .word read _ => .error read
  | .broken read _ => .error read

/-- Reads the items of an array, of any kind. -/
def keepItems : List Scanned → Except Fault Unit
  | [] => .ok ()
  | item :: rest =>
    match keep item with
    | .error fault => .error fault
    | .ok _ => keepItems rest

/-- Reads the members of an object, of any kind. -/
def keepMembers : List (Except Fault String × Scanned) → Except Fault Unit
  | [] => .ok ()
  | (.error fault, _) :: _ => .error fault
  | (.ok _, value) :: rest =>
    match keep value with
    | .error fault => .error fault
    | .ok _ => keepMembers rest

end

mutual

/-- The value, if it can be read. -/
def toJson? : Scanned → Option Json
  | .null => some .null
  | .bool b => some (.bool b)
  | .number (.ok n) => some (.number n)
  | .string (.ok s) => some (.string s)
  | .array items .closed => (itemsToJson? items).map .array
  | .object members .closed => (membersToJson? members).map .object
  | _ => none

/-- The values of the items of an array. -/
def itemsToJson? : List Scanned → Option (List Json)
  | [] => some []
  | item :: rest =>
    match toJson? item, itemsToJson? rest with
    | some item, some items => some (item :: items)
    | _, _ => none

/-- The members of an object, with their values. -/
def membersToJson? : List (Except Fault String × Scanned) → Option (List (String × Json))
  | [] => some []
  | (.error _, _) :: _ => none
  | (.ok key, value) :: rest =>
    match toJson? value, membersToJson? rest with
    | some value, some members => some ((key, value) :: members)
    | _, _ => none

end

/-- What kind of value stands in the text, where one of another kind is asked
    for. The inside of arrays and objects is not looked at. -/
def kind : Scanned → Except Fault Kind
  | .null => .ok .null
  | .bool b => .ok (.bool b)
  | .number value => value.map .number
  | .string text => text.map .string
  | .array _ _ => .ok .sequence
  | .object _ _ => .ok .map
  | .deep inner => kind inner
  | .word read _ => .error read
  | .broken read _ => .error read

/-- The error of a value that is not what is asked for. -/
def mismatch (value : Scanned) (expected : String) : Error :=
  match value.kind with
  | .ok kind => .invalidType kind expected
  | .error fault => .fault fault

end Scanned

/-- Blanks between tokens. -/
def isBlank (c : Char) : Bool := c = ' ' || c = '\n' || c = '\t' || c = '\r'

/-- A text without the blanks at its start. -/
def skipBlank (cs : List Char) : List Char := cs.dropWhile isBlank

/-- A piece of a quoted string: a character, or the number given by an escape of
    four hexadecimal digits. -/
inductive Piece where
  | char (c : Char)
  | unit (n : Nat)

/-- The value of a hexadecimal digit. -/
def hexValue? (c : Char) : Option Nat :=
  if '0' ≤ c ∧ c ≤ '9' then some (c.toNat - '0'.toNat)
  else if 'a' ≤ c ∧ c ≤ 'f' then some (c.toNat - 'a'.toNat + 10)
  else if 'A' ≤ c ∧ c ≤ 'F' then some (c.toNat - 'A'.toNat + 10)
  else none

/-- The number given by four hexadecimal digits. -/
def hexUnit? (a b c d : Char) : Option Nat := do
  let a ← hexValue? a
  let b ← hexValue? b
  let c ← hexValue? c
  let d ← hexValue? d
  return ((a * 16 + b) * 16 + c) * 16 + d

/-- The character that a one-letter escape stands for. -/
def simpleEscape? (c : Char) : Option Char :=
  if c = '"' || c = '\\' || c = '/' then some c
  else if c = 'n' then some '\n'
  else if c = 'r' then some '\r'
  else if c = 't' then some '\t'
  else if c = 'b' then some (Char.ofNat 8)
  else if c = 'f' then some (Char.ofNat 12)
  else none

/-- The pieces of a quoted string, after its opening quote, and what follows the
    closing quote or is wrong before it. A character that must not stand where
    it does is the last piece. -/
def scanString : List Char → List Piece × Except Fault (List Char)
  | [] => ([], .error .endInString)
  | '"' :: rest => ([], .ok rest)
  | '\\' :: 'u' :: a :: b :: c :: d :: rest =>
    match hexUnit? a b c d with
    | none => ([], .error .escape)
    | some n =>
      let (pieces, after) := scanString rest
      (.unit n :: pieces, after)
  | '\\' :: 'u' :: rest =>
    -- Fewer than four characters; four bytes are too many to be cut off.
    ([], .error (if (String.ofList rest).utf8ByteSize < 4 then .endInString else .escape))
  | '\\' :: c :: rest =>
    match simpleEscape? c with
    | none => ([.char c], .error .escape)
    | some c =>
      let (pieces, after) := scanString rest
      (.char c :: pieces, after)
  | ['\\'] => ([], .error .endInString)
  | c :: rest =>
    if c.toNat < 32 then ([.char c], .error .control)
    else
      let (pieces, after) := scanString rest
      (.char c :: pieces, after)

/-- A number that begins a surrogate pair. -/
def isLeading (n : Nat) : Bool := 0xD800 ≤ n && n ≤ 0xDBFF

/-- A number that completes a surrogate pair. -/
def isTrailing (n : Nat) : Bool := 0xDC00 ≤ n && n ≤ 0xDFFF

/-- The text of the pieces of a string. Surrogates have to come in pairs;
    `atEnd` is the fault of half a pair at the end. -/
def joinPieces (atEnd : Fault) : List Piece → Except Fault (List Char)
  | [] => .ok []
  | .char c :: rest => (joinPieces atEnd rest).map (c :: ·)
  | .unit n :: rest =>
    if isTrailing n then .error .surrogate
    else if isLeading n then
      match rest with
      | .unit m :: rest =>
        if isTrailing m then
          let c := Char.ofNat (0x10000 + (n - 0xD800) * 0x400 + (m - 0xDC00))
          (joinPieces atEnd rest).map (c :: ·)
        else .error .surrogate
      | .char _ :: _ => .error .unpaired
      | [] => .error atEnd
    else (joinPieces atEnd rest).map (Char.ofNat n :: ·)

/-- The text of a string as it is read: its pieces, unless one of them or what
    follows them has a fault. -/
def readPieces (pieces : List Piece) (after : Except Fault (List Char)) : Except Fault String :=
  match after with
  | .ok _ => (joinPieces .unpaired pieces).map String.ofList
  | .error fault =>
    match joinPieces fault pieces with
    | .error first => .error first
    | .ok _ => .error fault

/-- The result of scanning: a tree, and the text after it unless the tree has a
    fault. -/
abbrev Scan := Scanned × Option (List Char)

/-- The result of a fault that shows the same whether read or skipped. -/
def faulty (fault : Fault) : Scan := (.broken fault fault, none)

/-- The result of a literal name or a numeral with a fault. -/
def faultyWord (read skipped : Fault) : Scan := (.word read skipped, none)

/-- The result of a numeral that is cut off by the end of the text. -/
def cutNumeral : Scan := faultyWord .endInValue .number

/-- The result of a numeral with a character that does not belong there. -/
def faultyNumeral : Scan := faultyWord .number .number

/-- Scans the rest of a literal name. -/
def scanLiteral (value : Scanned) : List Char → List Char → Scan
  | [], cs => (value, some cs)
  | _ :: _, [] => faultyWord .endInValue .endInValue
  | e :: expected, c :: cs =>
    if e = c then scanLiteral value expected cs else faultyWord .literal .literal

/-- Scans the exponent of a numeral whose other parts are known. -/
def scanExponent (numeral : Numeral) : List Char → Scan
  | [] => (.number numeral.value, some [])
  | c :: rest =>
    if c = 'e' || c = 'E' then
      let (down, cs) :=
        match rest with
        | '-' :: cs => (true, cs)
        | '+' :: cs => (false, cs)
        | cs => (false, cs)
      let ds := cs.takeWhile Char.isDigit
      if cs.isEmpty then cutNumeral
      else if ds.isEmpty then faultyNumeral
      else
        (.number { numeral with exponent := some (down, ds) }.value,
          some (cs.dropWhile Char.isDigit))
    else (.number numeral.value, some (c :: rest))

/-- Scans a numeral after its sign. -/
def scanUnsigned (negative : Bool) (cs : List Char) : Scan :=
  let whole := cs.takeWhile Char.isDigit
  let rest := cs.dropWhile Char.isDigit
  let numeral : Numeral :=
    { negative := negative, whole := whole, fraction := none, exponent := none }
  if cs.isEmpty then cutNumeral
  else if whole.isEmpty || (whole.head? == some '0' && 1 < whole.length) then faultyNumeral
  else
    match rest with
    | '.' :: after =>
      let fraction := after.takeWhile Char.isDigit
      if after.isEmpty then cutNumeral
      else if fraction.isEmpty then faultyNumeral
      else scanExponent { numeral with fraction := some fraction } (after.dropWhile Char.isDigit)
    | rest => scanExponent numeral rest

/-- Scans a string after its opening quote. -/
def scanText (cs : List Char) : Scan :=
  let (pieces, after) := scanString cs
  let text := readPieces pieces after
  match after, text with
  | .ok rest, text => (.string text, some rest)
  | .error skipped, .error read => (.broken read skipped, none)
  | .error skipped, .ok _ => faulty skipped

/-- The number of arrays and objects around a value, up to which one more can be
    read. -/
def depthLimit : Nat := 127

mutual

/-- Scans a value inside `depth` arrays and objects. -/
def scanValue : Nat → Nat → List Char → Scan
  | 0, _, _ => faulty .noValue
  | fuel + 1, depth, cs =>
    let nested (scan : Scan) : Scan :=
      if depth = depthLimit then (.deep scan.1, scan.2) else scan
    match skipBlank cs with
    | [] => faulty .endInValue
    | '[' :: rest =>
      nested <|
        match skipBlank rest with
        | [] => (.array [] .cut, none)
        | ']' :: rest => (.array [] .closed, some rest)
        | rest =>
          let (items, ending, after) := scanItems fuel (depth + 1) rest
          (.array items ending, after)
    | '\x7b' :: rest =>
      nested <|
        match skipBlank rest with
        | '\x7d' :: rest => (.object [] .closed, some rest)
        | rest =>
          let (members, ending, after) := scanMembers fuel (depth + 1) .cut rest
          (.object members ending, after)
    | '"' :: rest => scanText rest
    | '-' :: rest => scanUnsigned true rest
    | c :: rest =>
      if c.isDigit then scanUnsigned false (c :: rest)
      else if c = 'n' then scanLiteral .null ['u', 'l', 'l'] rest
      else if c = 't' then scanLiteral (.bool true) ['r', 'u', 'e'] rest
      else if c = 'f' then scanLiteral (.bool false) ['a', 'l', 's', 'e'] rest
      else faulty .noValue

/-- Scans an item of an array and those that follow. -/
def scanItems : Nat → Nat → List Char → List Scanned × Ending × Option (List Char)
  | 0, _, _ => ([], .junk, none)
  | fuel + 1, depth, cs =>
    let (item, after) := scanValue fuel depth cs
    match after with
    | none => ([item], .junk, none)
    | some cs =>
      match skipBlank cs with
      | [] => ([item], .cut, none)
      | ']' :: rest => ([item], .closed, some rest)
      | ',' :: rest =>
        match skipBlank rest with
        | [] => ([item], .cutAfterComma, none)
        | ']' :: _ => ([item], .trailingComma, none)
        | rest =>
          let (items, ending, after) := scanItems fuel depth rest
          (item :: items, ending, after)
      | _ => ([item], .junk, none)

/-- Scans a member of an object and those that follow; `atEnd` is the ending if
    the text ends here. -/
def scanMembers : Nat → Nat → Ending → List Char →
    List (Except Fault String × Scanned) × Ending × Option (List Char)
  | 0, _, _, _ => ([], .junk, none)
  | fuel + 1, depth, atEnd, cs =>
    match skipBlank cs with
    | [] => ([], atEnd, none)
    | '"' :: rest =>
      let (pieces, after) := scanString rest
      let key := readPieces pieces after
      match after with
      | .error fault => ([(key, .broken fault fault)], .junk, none)
      | .ok rest =>
        match skipBlank rest with
        | [] => ([(key, .broken .endInObject .endInObject)], .junk, none)
        | ':' :: rest =>
          let (value, after) := scanValue fuel depth rest
          match after with
          | none => ([(key, value)], .junk, none)
          | some cs =>
            match skipBlank cs with
            | [] => ([(key, value)], .cut, none)
            | '\x7d' :: rest => ([(key, value)], .closed, some rest)
            | ',' :: rest =>
              match skipBlank rest with
              | '\x7d' :: _ => ([(key, value)], .trailingComma, none)
              | rest =>
                let (members, ending, after) := scanMembers fuel depth .cutAfterComma rest
                ((key, value) :: members, ending, after)
            | _ => ([(key, value)], .junk, none)
        | _ => ([(key, .broken .noColon .noColon)], .junk, none)
    | _ => ([], .badKey, none)

end

/-- The tree of a text, and the text after it. Every two steps of the scan take
    at least one character, so that the fuel never runs out. -/
def scan (text : String) : Scan :=
  let cs := text.toList
  scanValue (2 * cs.length + 2) 0 cs

/-- The value that a text holds, if it holds one and nothing but blanks follow
    it. -/
def read? (text : String) : Option Json :=
  match scan text with
  | (tree, some after) => if after.all isBlank then tree.toJson? else none
  | _ => none

end Json

end Seismicity
