import Seismicity.Json.Codec

/-!
# Tagged Alternatives

Alternatives that are written as one object, whose fields follow a member that
names the alternative. The name may stand anywhere in the object, so all other
members are read as values of any kind first, and as fields only when the
object has ended. From an array, the name is the first item.

## Main definitions

* `TaggedVariant`: An alternative with its fields.
* `Codec.tagged`: The codec of tagged alternatives.
-/

namespace Seismicity

namespace Json

/-- One of the alternatives of a type, with its fields. `write` gives nothing
    for the other alternatives. -/
structure TaggedVariant (β : Type) where
  name : String
  readMembers : List (Except Fault String × Scanned) → Except Error β
  readItems : List Scanned → Except Error β
  write : β → Option (List (String × Json))

namespace TaggedVariant

/-- The array of an alternative has to end where the last field has been read. -/
def itemsEnd (count : Nat) : List Scanned → Except Error Unit
  | [] => .ok ()
  | rest => .error (.invalidLength (count + rest.length) (Fields.elements count ++ " in sequence"))

/-- An alternative with the given fields. `type` is the type of the
    alternatives. -/
def fields {β γ : Type} (type label name : String) (fields : Fields γ) (make : γ → β)
    (view? : β → Option γ) : TaggedVariant β :=
  { name := name
    readMembers := fun members => (fields.readObject members .closed).map make
    readItems := fun items =>
      let expected :=
        "struct variant " ++ type ++ "::" ++ label ++ " with " ++ Fields.elements fields.size
      match fields.sequence 0 expected .closed items with
      | .error e => .error e
      | .ok (x, rest) =>
        (itemsEnd (items.length - rest.length) rest).map fun _ => make x
    write := fun y => (view? y).map fields.write }

/-- The alternative that a name stands for. -/
def named {β : Type} (variants : List (TaggedVariant β)) : Scanned → Except Error (TaggedVariant β)
  | .string (.ok name) =>
    match variants.find? fun variant => variant.name == name with
    | some variant => .ok variant
    | none => .error (.unknownVariant name (variants.map TaggedVariant.name))
  | value => .error (value.mismatch "variant identifier")

/-- Looks for the name among the members of an object, and reads the others as
    values of any kind. -/
def findTag {β : Type} (tag : String) (variants : List (TaggedVariant β))
    (found : Option (TaggedVariant β)) :
    List (Except Fault String × Scanned) → Except Error (Option (TaggedVariant β))
  | [] => .ok found
  | (.error fault, _) :: _ => .error (.fault fault)
  | (.ok key, value) :: rest =>
    if key = tag then
      if found.isSome then .error (.duplicateField tag)
      else
        match named variants value with
        | .error e => .error e
        | .ok variant => findTag tag variants (some variant) rest
    else
      match orFault value.keep with
      | .error e => .error e
      | .ok _ => findTag tag variants found rest

/-- Writes a value as the first alternative that it is. -/
def encode {β : Type} (tag : String) (x : β) : List (TaggedVariant β) → Json
  | [] => .null
  | variant :: rest =>
    match variant.write x with
    | none => encode tag x rest
    | some members => .object ((tag, .string variant.name) :: members)

end TaggedVariant

/-- The codec of alternatives that are named by a member `tag`. `type` is the
    type of the alternatives. -/
def Codec.tagged {β : Type} (type tag : String) (variants : List (TaggedVariant β)) : Codec β :=
  { encode := fun x => TaggedVariant.encode tag x variants
    decode := fun
      | .object members ending =>
        match TaggedVariant.findTag tag variants none members with
        | .error e => .error e
        | .ok found =>
          match check ending.memberFault?, found with
          | .error e, _ => .error e
          | .ok _, none => .error (.missingField tag)
          | .ok _, some variant => variant.readMembers members
      | .array [] ending =>
        match check ending.itemFault? with
        | .error e => .error e
        | .ok _ => .error (.missingField tag)
      | .array (name :: items) ending =>
        match TaggedVariant.named variants name with
        | .error e => .error e
        | .ok variant =>
          match orFault (Scanned.keepItems items), check ending.itemFault? with
          | .error e, _ => .error e
          | .ok _, .error e => .error e
          | .ok _, .ok _ => variant.readItems items
      | .deep _ => .error (.fault .depth)
      | value => .error (value.mismatch ("internally tagged enum " ++ type)) }

end Json

end Seismicity
