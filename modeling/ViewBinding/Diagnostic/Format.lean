import ViewBinding.Diagnostic
import ViewBinding.Manifest.Format

/-!
# The written form of diagnostics

Diagnostics are written as JSON and read back. A key that nobody knows is passed over.

* `Level.lookup_variants`: each level is found under its key.
-/

namespace ViewBinding

open Document

/-- The levels by their keys. -/
def Level.variants : List (String × Level) :=
  Level.all.map fun level => (level.key, level)

theorem Level.lookup_variants (level : Level) : Level.variants.lookup level.key = some level := by
  cases level <;> rfl

/-- The fields of a place. -/
def Location.schema : Schema Location where
  name := "Location"
  strict := false
  blank := {}
  fields := [
    ⟨"file", false, fun d l =>
      (decodeOption (decodeText "path string") d).map fun v => { l with file := v }⟩,
    ⟨"line", false, fun d l => (decodeOption decodeUInt32 d).map fun v => { l with line := v }⟩]

/-- The fields of a diagnostic. -/
def Diagnostic.schema : Schema Diagnostic where
  name := "Diagnostic"
  strict := false
  blank := { level := .note, message := "" }
  fields := [
    ⟨"level", true, fun d x =>
      (decodeVariant .json Level.variants d).map fun v => { x with level := v }⟩,
    ⟨"message", true, fun d x => (decodeText "a string" d).map fun v => { x with message := v }⟩,
    ⟨"subject", false, fun d x =>
      (decodeOption (decodeText "a string") d).map fun v => { x with subject := v }⟩,
    ⟨"location", false, fun d x =>
      (decodeOption (Location.schema.decode .json) d).map fun v => { x with location := v }⟩]

/-- The diagnostic of a JSON text. -/
def Diagnostic.ofJson (text : String) : Except ShapeError Diagnostic :=
  decodeJson (Diagnostic.schema.decode .json) text

/-- A place as JSON, with what is known of it. -/
def Location.toJson (l : Location) : Json :=
  .object (Json.field? "file" .text l.file ++
    Json.field? "line" (fun line => Json.natural line.toNat) l.line)

/-- A diagnostic as JSON. -/
def Diagnostic.toJson (d : Diagnostic) : Json :=
  .object ([("level", .text d.level.key), ("message", .text d.message)] ++
    Json.field? "subject" .text d.subject ++
    Json.field? "location" Location.toJson d.location)

end ViewBinding
