import ShellTemplate.Json.Basic
import ShellTemplate.Text.Quoted

namespace ShellTemplate

/-- Why a JSON value does not stand for a value of a type. -/
inductive DecodeError where
  | invalidType (found expected : String)
  | invalidValue (found expected : String)
  | invalidLength (length : Nat) (expected : String)
  | missingField (name : String)
  | duplicateField (name : String)
  | unknownField (name : String) (known : List String)
  | unknownVariant (name : String) (known : List String)
deriving DecidableEq, Repr

namespace DecodeError

def marked (name : String) : String :=
  "\x60" ++ name ++ "\x60"

/-- Names as alternatives: one, one or the other, or one of several. -/
def alternatives : List String → String
  | [] => "nothing"
  | [a] => marked a
  | [a, b] => marked a ++ " or " ++ marked b
  | names => "one of " ++ ", ".intercalate (names.map marked)

def message : DecodeError → String
  | .invalidType found expected => s!"invalid type: {found}, expected {expected}"
  | .invalidValue found expected => s!"invalid value: {found}, expected {expected}"
  | .invalidLength length expected => s!"invalid length {length}, expected {expected}"
  | .missingField name => "missing field " ++ marked name
  | .duplicateField name => "duplicate field " ++ marked name
  | .unknownField name known => "unknown field " ++ marked name ++ ", expected " ++ alternatives known
  | .unknownVariant name known =>
    "unknown variant " ++ marked name ++ ", expected " ++ alternatives known

end DecodeError

/-- A way to read values of a type from JSON. -/
abbrev Decoder (α : Type) := Json → Except DecodeError α

/-- What kind of value was found, with the value itself where it is short. -/
def Json.described : Json → String
  | .null => "null"
  | .boolean value => "boolean " ++ DecodeError.marked (if value then "true" else "false")
  | .integer value => "integer " ++ DecodeError.marked (toString value)
  | .decimal value => "floating point " ++ DecodeError.marked value.text
  | .text value => "string " ++ Text.quoted value
  | .array _ => "sequence"
  | .object _ => "map"
  | .garbled => "half of a surrogate pair"

def Json.mismatch {α : Type} (expected : String) (json : Json) : Except DecodeError α :=
  .error (.invalidType json.described expected)

namespace Decoder

def text : Decoder String
  | .text value => .ok value
  | other => other.mismatch "a string"

def boolean : Decoder Bool
  | .boolean value => .ok value
  | other => other.mismatch "a boolean"

/-- A whole number that is not negative. -/
def natural (kind : String) : Decoder Nat
  | .integer (.ofNat value) => .ok value
  | .integer value => .error (.invalidValue (Json.integer value).described kind)
  | other => other.mismatch kind

/-- A natural number below a limit. -/
def below (limit : Nat) (kind : String) : Decoder (Fin limit)
  | .integer (.ofNat value) =>
    if bound : value < limit then .ok ⟨value, bound⟩
    else .error (.invalidValue (Json.integer value).described kind)
  | .integer value => .error (.invalidValue (Json.integer value).described kind)
  | other => other.mismatch kind

def byte : Decoder UInt8 := fun json =>
  (below UInt8.size "u8" json).map UInt8.ofFin

def word : Decoder UInt32 := fun json =>
  (below UInt32.size "u32" json).map UInt32.ofFin

def items {α : Type} (item : Decoder α) : Decoder (List α)
  | .array values => values.mapM item
  | other => other.mismatch "a sequence"

/-- Null stands for an absent value. -/
def nullable {α : Type} (value : Decoder α) : Decoder (Option α)
  | .null => .ok none
  | other => (value other).map some

def member {α : Type} (value : Decoder α) : String × Json → Except DecodeError (String × α)
  | (key, json) => (value json).map (key, ·)

/-- An object with any keys and values of one type. -/
def mapping {α : Type} (value : Decoder α) : Decoder (List (String × α))
  | .object members => members.mapM (member value)
  | other => other.mismatch "a map"

/-- What a name from a list stands for. -/
def variant {α : Type} (known : List (String × α)) (name : String) : Except DecodeError α :=
  match known.lookup name with
  | some value => .ok value
  | none => .error (.unknownVariant name (known.map Prod.fst))

/-- A name from a list, alone or as the only key of an object whose value is null. -/
def choice {α : Type} (known : List (String × α)) : Decoder α
  | .text name => variant known name
  | .object [(name, value)] => do
    let chosen ← variant known name
    match value with
    | .null => .ok chosen
    | other => other.mismatch "unit"
  | .object members => .error (.invalidValue (Json.object members).described "map with a single key")
  | other => other.mismatch "string or map"

/-- An object with one key, whose name tells how its value is read. -/
def tagged {α : Type} (known : List (String × Decoder α)) : Decoder α
  | .text name => do
    let _ ← variant known name
    .error (.invalidType "unit variant" "newtype variant")
  | .object [(name, value)] => do
    let read ← variant known name
    read value
  | .object members => .error (.invalidValue (Json.object members).described "map with a single key")
  | other => other.mismatch "string or map"

end Decoder

/-- A field of a record: its name, the keys under which it may stand, and a test of its value. -/
structure Field where
  name : String
  spellings : List String
  check : Json → Except DecodeError Unit

/-- A record is read in two passes. All values present are checked in the order in which they stand;
then the record is put together from the fields by name, where a missing one may be an error. -/
structure Record (α : Type) where
  fields : List Field
  assemble : (String → Option Json) → Except DecodeError α

namespace Record

instance : Functor Record where
  map f r := ⟨r.fields, fun find => (r.assemble find).map f⟩

instance : Pure Record where
  pure a := ⟨[], fun _ => .ok a⟩

instance : Seq Record where
  seq f r := ⟨f.fields ++ (r ()).fields, fun find => do
    let make ← f.assemble find
    (( r ()).assemble find).map make⟩

def field {α : Type} (name : String) (spellings : List String) (value : Decoder α)
    (absent : Except DecodeError α) : Record α :=
  ⟨[⟨name, spellings, fun json => (value json).map fun _ => ()⟩],
    fun find =>
      match find name with
      | some json => value json
      | none => absent⟩

/-- A field that must be present. -/
def required {α : Type} (name : String) (value : Decoder α) : Record α :=
  field name [name] value (.error (.missingField name))

/-- A field with a value for the case that it is absent. -/
def defaulted {α : Type} (name : String) (value : Decoder α) (absent : α) : Record α :=
  field name [name] value (.ok absent)

/-- A field that may be absent or null. -/
def optional {α : Type} (name : String) (value : Decoder α) : Record (Option α) :=
  field name [name] value.nullable (.ok none)

/-- Checks the members one by one. A field may stand once, under one of its spellings. -/
def visit (fields : List Field) (strict : Bool) : List String → List (String × Json) →
    Except DecodeError Unit
  | _, [] => .ok ()
  | seen, (key, json) :: rest =>
    match fields.find? (·.spellings.contains key) with
    | none =>
      if strict then .error (.unknownField key (fields.map (·.name)))
      else visit fields strict seen rest
    | some f =>
      if seen.contains f.name then .error (.duplicateField f.name)
      else
        match f.check json with
        | .error e => .error e
        | .ok () => visit fields strict (f.name :: seen) rest

/-- The value of a field among the members. -/
def lookup (fields : List Field) (members : List (String × Json)) (name : String) : Option Json :=
  match fields.find? (·.name == name) with
  | some f => (members.find? fun (key, _) => f.spellings.contains key).map Prod.snd
  | none => none

/-- Reads an object; members of other names do not matter unless the reading is strict. -/
def ofMembers {α : Type} (r : Record α) (strict : Bool) (members : List (String × Json)) :
    Except DecodeError α := do
  visit r.fields strict [] members
  r.assemble (lookup r.fields members)

/-- Reads the fields from the items of an array, in the order of their declaration. -/
def ofItems {α : Type} (r : Record α) (shape : String) (items : List Json) :
    Except DecodeError α := do
  let names := r.fields.map (·.name)
  let members := names.zip items
  visit r.fields false [] members
  match r.assemble (lookup r.fields members) with
  | .error (.missingField name) => .error (.invalidLength (names.idxOf name) shape)
  | .error e => .error e
  | .ok value =>
    if names.length < items.length then
      .error (.invalidLength items.length "fewer elements in array")
    else .ok value

/-- The name of a record type with the number of its fields. -/
def shape {α : Type} (r : Record α) (kind : String) : String :=
  s!"{kind} with {r.fields.length} element" ++ (if r.fields.length = 1 then "" else "s")

/-- A record stands as an object or as an array. -/
def decode {α : Type} (kind : String) (r : Record α) : Decoder α
  | .object members => r.ofMembers false members
  | .array items => r.ofItems (r.shape kind) items
  | other => other.mismatch kind

end Record

end ShellTemplate
