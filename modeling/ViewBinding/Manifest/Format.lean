import ViewBinding.Document.Json
import ViewBinding.Document.Shape
import ViewBinding.Document.Toml.Reader
import ViewBinding.Document.Toml.Value
import ViewBinding.Json.Rendering
import ViewBinding.Manifest.Basic
import ViewBinding.Settings

/-!
# The written form of manifests and settings

Manifests are read from TOML or JSON and written as JSON; settings are read from TOML. Keys that
nobody knows are refused.

* `decodeJson_eq_ok_iff`: a JSON text has a value if its document has one and nothing follows.
-/

namespace ViewBinding

open Document

/-! ## Texts -/

/-- The value of a JSON text. -/
def decodeJson {α : Type} (decode : Decoder α) (text : String) : Except ShapeError α :=
  match decode (readJson text).1 with
  | .error e => .error e
  | .ok a => if (readJson text).2 then .ok a else .error .malformed

/-- The value of a TOML text. A fault of its shape is told only where the document is a value by
itself; otherwise that is the fault. -/
def decodeToml {α : Type} (decode : Decoder α) (text : String) : Except ShapeError α :=
  match Toml.read? text with
  | none => .error .malformed
  | some d => (decode d).mapError fun e => if Toml.isRootValue d then e else .malformed

theorem decodeJson_eq_ok_iff {α : Type} {decode : Decoder α} {text : String} {a : α} :
    decodeJson decode text = .ok a ↔
      decode (readJson text).1 = .ok a ∧ (readJson text).2 = true := by
  unfold decodeJson
  split
  · next h => simp [h]
  · next b h =>
    rw [h]
    split <;> simp_all

/-! ## Names of variants -/

/-- The kinds of declaration by their keys. -/
def DeclarationKind.variants : List (String × DeclarationKind) :=
  DeclarationKind.all.map fun kind => (kind.key, kind)

/-- The modifiers by their keys. -/
def Modifier.variants : List (String × Modifier) :=
  Modifier.all.map fun m => (m.key, m)

/-! ## Manifests -/

/-- The fields of a member. -/
def MemberEntry.schema (format : Format) : Schema MemberEntry where
  name := "MemberEntry"
  strict := true
  blank := { kind := .field, name := "" }
  fields := [
    ⟨"kind", true, fun d m =>
      (decodeVariant format DeclarationKind.variants d).map fun v => { m with kind := v }⟩,
    ⟨"name", true, fun d m => (decodeText "a string" d).map fun v => { m with name := v }⟩,
    ⟨"type", false, fun d m => (decodeText "a string" d).map fun v => { m with type := v }⟩,
    ⟨"params", false, fun d m =>
      (decodeList (decodeText "a string") d).map fun v => { m with params := v }⟩,
    ⟨"modifiers", false, fun d m =>
      (decodeList (decodeVariant format Modifier.variants) d).map fun v =>
        { m with modifiers := v }⟩,
    ⟨"line", false, fun d m =>
      (decodeOption decodeUInt32 d).map fun v => { m with line := v }⟩,
    ⟨"bind_view", false, fun d m =>
      (decodeOption decodeInt32 d).map fun v => { m with bindView := v }⟩,
    ⟨"on_click", false, fun d m =>
      (decodeOption (decodeList decodeInt32) d).map fun v => { m with onClick := v }⟩]

/-- The fields of a class. -/
def ClassEntry.schema (format : Format) : Schema ClassEntry where
  name := "ClassEntry"
  strict := true
  blank := { name := "" }
  fields := [
    ⟨"name", true, fun d c => (decodeText "a string" d).map fun v => { c with name := v }⟩,
    ⟨"package", false, fun d c =>
      (decodeOption (decodeText "a string") d).map fun v => { c with package := v }⟩,
    ⟨"source", false, fun d c =>
      (decodeOption (decodeText "path string") d).map fun v => { c with source := v }⟩,
    ⟨"member", false, fun d c =>
      (decodeList ((MemberEntry.schema format).decode format) d).map fun v =>
        { c with members := v }⟩]

/-- The fields of a manifest. -/
def Manifest.schema (format : Format) : Schema Manifest where
  name := "Manifest"
  strict := true
  blank := {}
  fields := [
    ⟨"source_version", false, fun d m =>
      (decodeOption decodeUInt32 d).map fun v => { m with sourceVersion := v }⟩,
    ⟨"class", false, fun d m =>
      (decodeList ((ClassEntry.schema format).decode format) d).map fun v =>
        { m with classes := v }⟩]

/-- The manifest of a JSON text. -/
def Manifest.ofJson (text : String) : Except ShapeError Manifest :=
  decodeJson ((Manifest.schema .json).decode .json) text

/-- The manifest of a TOML text. -/
def Manifest.ofToml (text : String) : Except ShapeError Manifest :=
  decodeToml ((Manifest.schema .toml).decode .toml) text

/-- A view id as JSON. -/
def ViewId.toJson (id : ViewId) : Json :=
  .number id.toInt

/-- A member as JSON. -/
def MemberEntry.toJson (m : MemberEntry) : Json :=
  .object ([
    ("kind", .text m.kind.key),
    ("name", .text m.name),
    ("type", .text m.type),
    ("params", .texts m.params),
    ("modifiers", .texts (m.modifiers.map Modifier.key))] ++
    Json.field? "line" (fun line => Json.natural line.toNat) m.line ++
    Json.field? "bind_view" ViewId.toJson m.bindView ++
    Json.field? "on_click" (fun ids => .array (ids.map ViewId.toJson)) m.onClick)

/-- A class as JSON. -/
def ClassEntry.toJson (c : ClassEntry) : Json :=
  .object ([("name", .text c.name)] ++
    Json.field? "package" .text c.package ++
    Json.field? "source" .text c.source ++
    [("member", .array (c.members.map MemberEntry.toJson))])

/-- A manifest as JSON. -/
def Manifest.toJson (m : Manifest) : Json :=
  .object (Json.field? "source_version" (fun v => Json.natural v.toNat) m.sourceVersion ++
    [("class", .array (m.classes.map ClassEntry.toJson))])

/-! ## Settings -/

/-- The fields of settings. -/
def Settings.schema : Schema Settings where
  name := "GeneratorConfig"
  strict := true
  blank := {}
  fields := [
    ⟨"class_suffix", false, fun d s =>
      (decodeText "a string" d).map fun v => { s with classSuffix := v }⟩,
    ⟨"runtime_package", false, fun d s =>
      (decodeText "a string" d).map fun v => { s with runtimePackage := v }⟩,
    ⟨"indent", false, fun d s => (decodeSize d).map fun v => { s with indent := v }⟩,
    ⟨"header", false, fun d s => (decodeBool d).map fun v => { s with header := v }⟩]

/-- The settings of a TOML text. -/
def Settings.ofToml (text : String) : Except ShapeError Settings :=
  decodeToml (Settings.schema.decode .toml) text

end ViewBinding
