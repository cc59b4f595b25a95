import ViewBinding.Document.Basic

/-!
# The shape of documents

Decoding a document into a value of the library. A schema lists the fields of a structure; the
structure may be written as a record, or as the list of its fields in their order. Decoding goes
from left to right and ends with the first fault.
-/

namespace ViewBinding

/-- The two formats, which differ in how they treat superfluous items and variants. -/
inductive Format where
  | json
  | toml
  deriving DecidableEq, Repr

/-- Why a document has not the shape that was expected. `malformed` says that it is no document of
its format at all; `other` is a wording of the format. -/
inductive ShapeError where
  | malformed
  | unknownField (name : String) (expected : List String)
  | missingField (name : String)
  | duplicateField (name : String)
  | unknownVariant (name : String) (expected : List String)
  | invalidType (found wanted : String)
  | invalidValue (found wanted : String)
  | invalidLength (length : Nat) (name : String) (fields : Nat)
  | other (wording : String)
  deriving DecidableEq, Repr

namespace ShapeError

/-- A name between back quotes. -/
def ticked (name : String) : String :=
  s!"`{name}`"

/-- The names that were expected. -/
def oneOf : List String → String
  | [] => "there are no fields"
  | [a] => "expected " ++ ticked a
  | [a, b] => "expected " ++ ticked a ++ " or " ++ ticked b
  | names => "expected one of " ++ ", ".intercalate (names.map ticked)

/-- The wording of an error. -/
def message : ShapeError → String
  | malformed => "<syntax>"
  | unknownField name expected => "unknown field " ++ ticked name ++ ", " ++ oneOf expected
  | missingField name => "missing field " ++ ticked name
  | duplicateField name => "duplicate field " ++ ticked name
  | unknownVariant name expected => "unknown variant " ++ ticked name ++ ", " ++ oneOf expected
  | invalidType found wanted => s!"invalid type: {found}, expected {wanted}"
  | invalidValue found wanted => s!"invalid value: {found}, expected {wanted}"
  | invalidLength length name fields =>
    s!"invalid length {length}, expected struct {name} with {fields} elements"
  | other wording => wording

end ShapeError

namespace Document

/-- A decoder of documents. -/
abbrev Decoder (α : Type) := Document → Except ShapeError α

/-- The fault of a document that was to be something else. -/
def mismatch {α : Type} (wanted : String) (d : Document) : Except ShapeError α :=
  match d with
  | broken | unreadable => .error .malformed
  | d => .error (.invalidType d.describe wanted)

/-- A text. -/
def decodeText (wanted : String) : Decoder String
  | text s => .ok s
  | d => mismatch wanted d

/-- A truth value. -/
def decodeBool : Decoder Bool
  | boolean b => .ok b
  | d => mismatch "a boolean" d

/-- An integer between two bounds. -/
def decodeInteger (wanted : String) (low high : Int) : Decoder Int
  | integer n =>
    if low ≤ n && n ≤ high then .ok n
    else .error (.invalidValue (integer n).describe wanted)
  | d => mismatch wanted d

/-- A whole number of 32 bits without sign. -/
def decodeUInt32 (d : Document) : Except ShapeError UInt32 :=
  (decodeInteger "u32" 0 0xFFFFFFFF d).map fun n => UInt32.ofNat n.toNat

/-- A whole number of 32 bits with sign. -/
def decodeInt32 (d : Document) : Except ShapeError Int32 :=
  (decodeInteger "i32" (-0x80000000) 0x7FFFFFFF d).map Int32.ofInt

/-- A whole number of 64 bits without sign. -/
def decodeSize (d : Document) : Except ShapeError Nat :=
  (decodeInteger "usize" 0 0xFFFFFFFFFFFFFFFF d).map Int.toNat

/-- Nothing, or a value. -/
def decodeOption {α : Type} (decode : Decoder α) : Decoder (Option α)
  | null => .ok none
  | d => (decode d).map some

/-- The values of items, one after the other. -/
def decodeItems {α : Type} (decode : Decoder α) : List Document → Except ShapeError (List α)
  | [] => .ok []
  | item :: rest => do
    let value ← decode item
    let values ← decodeItems decode rest
    return value :: values

/-- A list of values. -/
def decodeList {α : Type} (decode : Decoder α) : Decoder (List α)
  | list items => decodeItems decode items
  | d => mismatch "a sequence" d

/-! ## Variants -/

/-- The variant of a name. -/
def variantNamed {α : Type} (variants : List (String × α)) (name : String) : Except ShapeError α :=
  match variants.lookup name with
  | some a => .ok a
  | none => .error (.unknownVariant name (variants.map (·.1)))

/-- A variant in JSON: its name, or a record from its name to nothing. -/
def decodeJsonVariant {α : Type} (variants : List (String × α)) : Decoder α
  | text name => variantNamed variants name
  | record ((some name, value) :: rest) => do
    let a ← variantNamed variants name
    match value with
    | null => if rest.isEmpty then return a else .error .malformed
    | d => mismatch "unit" d
  | _ => .error .malformed

/-- What a variant in TOML may be written with: an empty list or record. -/
def checkPayload : Document → Except ShapeError Unit
  | list [] | record [] => .ok ()
  | list _ => .error (.other "expected empty array")
  | record _ => .error (.other "expected empty table")
  | d => .error (.other s!"expected table, found {d.kindName}")

/-- A variant in TOML: its name, or a record from its name to something empty. -/
def decodeTomlVariant {α : Type} (variants : List (String × α)) : Decoder α
  | text name => variantNamed variants name
  | record [] => .error (.other "wanted exactly 1 element, found 0 elements")
  | record [(some name, value)] => do
    let a ← variantNamed variants name
    checkPayload value
    return a
  | record (_ :: _ :: _) => .error (.other "wanted exactly 1 element, more than 1 element")
  | broken => .error .malformed
  | _ => .error (.other "wanted string or table")

/-- A variant in either format. -/
def decodeVariant {α : Type} (format : Format) (variants : List (String × α)) : Decoder α :=
  match format with
  | .json => decodeJsonVariant variants
  | .toml => decodeTomlVariant variants

/-! ## Structures -/

/-- A field of a structure: its key, whether it has to be there, and how its value is put in. -/
structure Field (α : Type) where
  key : String
  required : Bool
  put : Document → α → Except ShapeError α

/-- A structure by its fields. `blank` has the default in each field; a schema that is not strict
passes over keys that it does not know. -/
structure Schema (α : Type) where
  name : String
  fields : List (Field α)
  strict : Bool
  blank : α

namespace Schema

variable {α : Type} (s : Schema α)

/-- The keys in their order. -/
def keys : List String :=
  s.fields.map (·.key)

/-- The field of a key. -/
def field? (key : String) : Option (Field α) :=
  s.fields.find? (·.key = key)

/-- The first required field that was not there. -/
def missing? (seen : List String) : Option String :=
  (s.fields.find? fun f => f.required && !seen.contains f.key).map (·.key)

/-- Puts in the entries of a record, given the value so far and the keys seen. -/
def putEntries (value : α) (seen : List String) :
    List (Option String × Document) → Except ShapeError α
  | [] =>
    match s.missing? seen with
    | some key => .error (.missingField key)
    | none => .ok value
  | (none, _) :: _ => .error .malformed
  | (some key, d) :: rest =>
    match s.field? key with
    | some f =>
      if seen.contains key then .error (.duplicateField key)
      else
        match f.put d value with
        | .error e => .error e
        | .ok value => putEntries value (key :: seen) rest
    | none =>
      if s.strict then .error (.unknownField key s.keys)
      else if d.isWhole then putEntries value seen rest
      else .error .malformed

/-- Puts in the items of a list, field by field; `index` counts those that are in. -/
def putItems (format : Format) (value : α) (index : Nat) :
    List (Field α) → List Document → Except ShapeError α
  | [], items => if items.isEmpty || format = .toml then .ok value else .error .malformed
  | f :: fields, [] =>
    if f.required then .error (.invalidLength index s.name s.fields.length)
    else putItems format value (index + 1) fields []
  | f :: fields, item :: items =>
    match f.put item value with
    | .error e => .error e
    | .ok value => putItems format value (index + 1) fields items

/-- Decodes a structure. -/
def decode (format : Format) : Decoder α
  | .list items => s.putItems format s.blank 0 s.fields items
  | .record entries => s.putEntries s.blank [] entries
  | .moment shown => s.putEntries s.blank [] [(some momentKey, .text shown)]
  | d => mismatch s!"struct {s.name}" d

end Schema

end Document

end ViewBinding
