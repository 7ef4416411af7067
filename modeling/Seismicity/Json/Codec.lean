import Seismicity.Json.Scanned

/-!
# Codecs

How data is written as JSON values and read from scanned text. Codecs of
records and of alternatives are put together from those of their parts.

A record is written as an object. It is read from an object, whose members may
stand in any order and among others, or from an array of the fields in order.
An alternative is written as its name, or as an object whose only member has
the name as its key.

## Main definitions

* `Codec`: A writer and a reader.
* `Fields`: The fields of a record.
* `Codec.record`, `Codec.variants`: Codecs of records and alternatives.
* `Codec.parse`: Reads a text.
-/

namespace Seismicity

namespace Json

/-- How values of a type are written, and read from a scanned text. -/
structure Codec (β : Type) where
  encode : β → Json
  decode : Scanned → Except Error β

/-- Turns a fault of the text into an error. -/
def orFault {β : Type} : Except Fault β → Except Error β
  | .ok x => .ok x
  | .error fault => .error (.fault fault)

/-- Nothing, unless there is a fault. -/
def check (fault? : Option Fault) : Except Error Unit := orFault (unless? fault?)

namespace Codec

/-- The codec of a type that corresponds to another one. -/
def via {β γ : Type} (codec : Codec β) (make : β → γ) (view : γ → β) : Codec γ :=
  { encode := fun x => codec.encode (view x)
    decode := fun value => (codec.decode value).map make }

/-- Doubles. Whole numbers are read as doubles, too. -/
def real : Codec Float :=
  { encode := fun x => if x.isFinite then .number (.real x) else .null
    decode := fun
      | .number (.ok (.natural n)) => .ok (Float.ofNat n)
      | .number (.ok (.negative n)) => .ok (-Float.ofNat n)
      | .number (.ok (.real x)) => .ok x
      | value => .error (value.mismatch "f64") }

/-- Counts. -/
def count : Codec Nat :=
  { encode := fun n => .number (.natural n)
    decode := fun
      | .number (.ok (.natural n)) => .ok n
      | .number (.ok (.negative n)) => .error (.invalidValue (.number (.negative n)) "usize")
      | value => .error (value.mismatch "usize") }

/-- Strings. -/
def string : Codec String :=
  { encode := .string
    decode := fun
      | .string (.ok s) => .ok s
      | value => .error (value.mismatch "a string") }

/-- Values that may be absent: null stands for none. -/
def option {β : Type} (codec : Codec β) : Codec (Option β) :=
  { encode := fun
      | none => .null
      | some x => codec.encode x
    decode := fun
      | .null => .ok none
      | value => (codec.decode value).map some }

/-- Reads the items of an array, one after the other. -/
def decodeItems {β : Type} (codec : Codec β) : List Scanned → Except Error (List β)
  | [] => .ok []
  | item :: rest =>
    match codec.decode item with
    | .error e => .error e
    | .ok x => (decodeItems codec rest).map (x :: ·)

/-- Lists, as arrays. -/
def list {β : Type} (codec : Codec β) : Codec (List β) :=
  { encode := fun xs => .array (xs.map codec.encode)
    decode := fun
      | .array items ending =>
        match decodeItems codec items with
        | .error e => .error e
        | .ok xs =>
          match check ending.itemFault? with
          | .error e => .error e
          | .ok _ => .ok xs
      | .deep _ => .error (.fault .depth)
      | value => .error (value.mismatch "a sequence") }

/-- The next item of an array, the `index`th, for a value that cannot be
    omitted; and the items after it. -/
def nextItem {β : Type} (codec : Codec β) (index : Nat) (expected : String) (ending : Ending) :
    List Scanned → Except Error (β × List Scanned)
  | [] =>
    match check ending.itemFault? with
    | .error e => .error e
    | .ok _ => .error (.invalidLength index expected)
  | item :: rest => (codec.decode item).map fun x => (x, rest)

/-- An array has to end where the last item has been read. -/
def listEnd (ending : Ending) : List Scanned → Except Error Unit
  | [] => check ending.listEndFault?
  | _ :: _ => .error (.fault .trailingText)

/-- Pairs, as arrays of two. -/
def pair {β γ : Type} (first : Codec β) (second : Codec γ) : Codec (β × γ) :=
  let expected := "a tuple of size 2"
  { encode := fun (x, y) => .array [first.encode x, second.encode y]
    decode := fun
      | .array items ending =>
        match nextItem first 0 expected ending items with
        | .error e => .error e
        | .ok (x, items) =>
          match nextItem second 1 expected ending items with
          | .error e => .error e
          | .ok (y, items) => (listEnd ending items).map fun _ => (x, y)
      | .deep _ => .error (.fault .depth)
      | value => .error (value.mismatch expected) }

end Codec

/-- The fields of a record. Members of an object are read into slots as they
    come; the record is put together when all have been read. -/
structure Fields (β : Type) where
  Slots : Type
  size : Nat
  blank : Slots
  /-- Reads the member with a given key into its slot; none if there is no such
      field. -/
  accept : String → Scanned → Slots → Option (Except Error Slots)
  /-- Puts the record together. -/
  finish : Slots → Except Error β
  /-- Reads the fields from the items of an array; the first has the given
      index. Gives the items that are left. -/
  sequence : Nat → String → Ending → List Scanned → Except Error (β × List Scanned)
  /-- The members of the object that the record is written as. -/
  write : β → List (String × Json)

namespace Fields

/-- What a field holds when an object has no member for it, when an array has
    no item for it, and whether a value is written at all. -/
structure Presence (β : Type) where
  absent : Option β
  omitted : Option β
  written : β → Bool

/-- A field that has to be there. -/
def required {β : Type} : Presence β :=
  { absent := none, omitted := none, written := fun _ => true }

/-- A field that has a default. -/
def defaulted {β : Type} (x : β) : Presence β :=
  { absent := some x, omitted := some x, written := fun _ => true }

/-- A field that may be missing from an object. -/
def optional {β : Type} : Presence (Option β) :=
  { absent := some none, omitted := none, written := fun _ => true }

/-- A field that may be missing, and is only written when it is there. -/
def sparse {β : Type} : Presence (Option β) :=
  { absent := some none, omitted := some none, written := Option.isSome }

/-- A record of one field. -/
def field {β : Type} (name : String) (codec : Codec β) (presence : Presence β) : Fields β :=
  { Slots := Option β
    size := 1
    blank := none
    accept := fun key value slot =>
      if key = name then
        match slot with
        | some _ => some (.error (.duplicateField name))
        | none => some ((codec.decode value).map some)
      else none
    finish := fun
      | some x => .ok x
      | none =>
        match presence.absent with
        | some x => .ok x
        | none => .error (.missingField name)
    sequence := fun index expected ending items =>
      match items, presence.omitted, check ending.itemFault? with
      | [], some x, .ok _ => .ok (x, [])
      | items, _, _ => codec.nextItem index expected ending items
    write := fun x => if presence.written x then [(name, codec.encode x)] else [] }

/-- The fields of one record and then those of another. -/
def both {β γ : Type} (first : Fields β) (second : Fields γ) : Fields (β × γ) :=
  { Slots := first.Slots × second.Slots
    size := first.size + second.size
    blank := (first.blank, second.blank)
    accept := fun key value (a, b) =>
      match first.accept key value a with
      | some result => some (result.map fun a => (a, b))
      | none => (second.accept key value b).map fun result => result.map fun b => (a, b)
    finish := fun (a, b) =>
      match first.finish a with
      | .error e => .error e
      | .ok x => (second.finish b).map fun y => (x, y)
    sequence := fun index expected ending items =>
      match first.sequence index expected ending items with
      | .error e => .error e
      | .ok (x, items) =>
        (second.sequence (index + first.size) expected ending items).map fun (y, items) =>
          ((x, y), items)
    write := fun (x, y) => first.write x ++ second.write y }

/-- The fields of a type that corresponds to another one. -/
def via {β γ : Type} (fields : Fields β) (make : β → γ) (view : γ → β) : Fields γ :=
  { Slots := fields.Slots
    size := fields.size
    blank := fields.blank
    accept := fields.accept
    finish := fun slots => (fields.finish slots).map make
    sequence := fun index expected ending items =>
      (fields.sequence index expected ending items).map fun (x, items) => (make x, items)
    write := fun x => fields.write (view x) }

/-- Reads the members of an object into slots. Members that are not fields are
    skipped. -/
def readMembers {β : Type} (fields : Fields β) (slots : fields.Slots) :
    List (Except Fault String × Scanned) → Except Error fields.Slots
  | [] => .ok slots
  | (.error fault, _) :: _ => .error (.fault fault)
  | (.ok key, value) :: rest =>
    match fields.accept key value slots with
    | some (.error e) => .error e
    | some (.ok slots) => readMembers fields slots rest
    | none =>
      match orFault value.skip with
      | .error e => .error e
      | .ok _ => readMembers fields slots rest

/-- Reads a record from an object. -/
def readObject {β : Type} (fields : Fields β) (members : List (Except Fault String × Scanned))
    (ending : Ending) : Except Error β :=
  match fields.readMembers fields.blank members with
  | .error e => .error e
  | .ok slots =>
    match check ending.memberFault? with
    | .error e => .error e
    | .ok _ => fields.finish slots

/-- A number of elements, as messages show it. -/
def elements (n : Nat) : String :=
  toString n ++ (if n = 1 then " element" else " elements")

/-- Reads a record from an object or an array. `name` says what is read. -/
def read {β : Type} (fields : Fields β) (name : String) : Scanned → Except Error β
  | .object members ending => fields.readObject members ending
  | .array items ending =>
    match fields.sequence 0 (name ++ " with " ++ elements fields.size) ending items with
    | .error e => .error e
    | .ok (x, items) => (Codec.listEnd ending items).map fun _ => x
  | .deep _ => .error (.fault .depth)
  | value => .error (value.mismatch name)

end Fields

/-- What an alternative holds: nothing, one value, or fields. -/
inductive Holding where
  | unit
  | value
  | fields
  deriving DecidableEq

/-- One of the alternatives of a type: its name, what it holds, and how that is
    written and read. `write` gives nothing for the other alternatives. -/
structure Variant (β : Type) where
  name : String
  holding : Holding
  read : Scanned → Except Error β
  write : β → Option Json

namespace Variant

/-- An alternative that holds nothing. It is written as its name alone. -/
def unit {β : Type} (name : String) (x : β) (holds : β → Bool) : Variant β :=
  { name := name
    holding := .unit
    read := fun
      | .null => .ok x
      | value => .error (value.mismatch "unit")
    write := fun y => if holds y then some .null else none }

/-- An alternative that holds one value. -/
def value {β γ : Type} (name : String) (codec : Codec γ) (make : γ → β) (view? : β → Option γ) :
    Variant β :=
  { name := name
    holding := .value
    read := fun scanned => (codec.decode scanned).map make
    write := fun y => (view? y).map codec.encode }

/-- An alternative that holds fields. `type` is the type of the alternatives. -/
def fields {β γ : Type} (type name : String) (fields : Fields γ) (make : γ → β)
    (view? : β → Option γ) : Variant β :=
  { name := name
    holding := .fields
    read := fun scanned =>
      (fields.read ("struct variant " ++ type ++ "::" ++ name) scanned).map make
    write := fun y => (view? y).map fun x => .object (fields.write x) }

/-- The alternative of a given name. -/
def named {β : Type} (variants : List (Variant β)) (name : String) : Except Error (Variant β) :=
  match variants.find? fun variant => variant.name == name with
  | some variant => .ok variant
  | none => .error (.unknownVariant name (variants.map Variant.name))

/-- Reads an alternative from its name alone; only one that holds nothing can be
    read so. -/
def fromName {β : Type} (variant : Variant β) : Except Error β :=
  match variant.holding with
  | .unit => variant.read .null
  | .value => .error (.invalidType .unitVariant "newtype variant")
  | .fields => .error (.invalidType .unitVariant "struct variant")

/-- Writes a value as the first alternative that it is. -/
def encode {β : Type} (x : β) : List (Variant β) → Json
  | [] => .null
  | variant :: rest =>
    match variant.write x, variant.holding with
    | none, _ => encode x rest
    | some _, .unit => .string variant.name
    | some value, _ => .object [(variant.name, value)]

/-- Reads an alternative from the members of an object, of which there has to be
    exactly one. -/
def fromMembers {β : Type} (variants : List (Variant β)) (ending : Ending) :
    List (Except Fault String × Scanned) → Except Error β
  | [] =>
    match ending with
    | .badKey => .error (.fault .key)
    | .cut => .error (.fault .endInValue)
    | _ => .error (.fault .noValue)
  | (.error fault, _) :: _ => .error (.fault fault)
  | (.ok name, value) :: rest =>
    match named variants name with
    | .error e => .error e
    | .ok variant =>
      match variant.read value with
      | .error e => .error e
      | .ok x =>
        match rest with
        | [] => (check ending.objectEndFault?).map fun _ => x
        | _ :: _ => .error (.fault .noValue)

end Variant

namespace Codec

/-- The codec of a record. `name` is what messages call it. -/
def record {β : Type} (name : String) (fields : Fields β) : Codec β :=
  { encode := fun x => .object (fields.write x)
    decode := fields.read ("struct " ++ name) }

/-- The codec of alternatives. -/
def variants {β : Type} (variants : List (Variant β)) : Codec β :=
  { encode := fun x => Variant.encode x variants
    decode := fun
      | .string (.ok name) =>
        match Variant.named variants name with
        | .error e => .error e
        | .ok variant => variant.fromName
      | .string (.error fault) => .error (.fault fault)
      | .object members ending => Variant.fromMembers variants ending members
      | .deep _ => .error (.fault .depth)
      | .broken read _ => .error (.fault read)
      | _ => .error (.fault .noValue) }

/-- Reads the value that a text holds. Nothing but blanks may follow it. -/
def parse {β : Type} (codec : Codec β) (text : String) : Except Error β :=
  let (tree, after) := scan text
  match codec.decode tree with
  | .error e => .error e
  | .ok x =>
    if (after.getD []).all isBlank then .ok x else .error (.fault .trailingText)

end Codec

end Json

end Seismicity
