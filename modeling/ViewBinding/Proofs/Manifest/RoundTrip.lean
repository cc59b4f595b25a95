import ViewBinding.Diagnostic.Format
import ViewBinding.Proofs.Document.Decoding
import ViewBinding.Proofs.Json.Reading

/-!
# Manifests and diagnostics as JSON

A value that was written as JSON is read as the same value, with any texts, numbers and lists in
it. A field without a value is left out, which is told apart from an empty list and from a place of
which nothing is known.

* `ofJson_render`: manifests and diagnostics come back from their JSON.
-/

namespace ViewBinding

open Document

theorem DeclarationKind.lookup_variants (kind : DeclarationKind) :
    DeclarationKind.variants.lookup kind.key = some kind := by
  cases kind <;> rfl

theorem Modifier.lookup_variants (m : Modifier) : Modifier.variants.lookup m.key = some m := by
  cases m <;> rfl

/-! ## Members, classes and manifests -/

namespace MemberEntry

/-- The fields of a member with the documents that are written for them. -/
def filling (m : MemberEntry) : Filling MemberEntry :=
  (schema .json).fields.zip [
    some (.text m.kind.key),
    some (.text m.name),
    some (.text m.type),
    some (.list (m.params.map .text)),
    some (.list (m.modifiers.map fun x => .text x.key)),
    m.line.map fun line => .integer line.toNat,
    m.bindView.map fun id => .integer id.toInt,
    m.onClick.map fun ids => .list (ids.map fun id => .integer id.toInt)]

theorem document_toJson (m : MemberEntry) : m.toJson.document = .record m.filling.entries := by
  obtain ⟨kind, name, type, params, modifiers, line, bindView, onClick⟩ := m
  -- A field without a value is not written, and the filling leaves it out just so.
  cases line <;> cases bindView <;> cases onClick <;>
    simp [toJson, filling, Filling.entries, schema, Json.document, Json.entries_eq_map,
      Json.documents_eq_map, Json.field?, Json.texts, Json.natural, ViewId.toJson]

theorem put_filling (m : MemberEntry) : m.filling.put (schema .json).blank = .ok m := by
  obtain ⟨kind, name, type, params, modifiers, line, bindView, onClick⟩ := m
  have hkind := decodeJsonVariant_text (DeclarationKind.lookup_variants kind)
  have hparams : decodeItems (decodeText "a string") (params.map .text) = .ok params :=
    decodeItems_map fun _ _ => rfl
  have hmodifiers : decodeItems (decodeVariant .json Modifier.variants)
      (modifiers.map fun x => .text x.key) = .ok modifiers :=
    decodeItems_map fun x _ => decodeJsonVariant_text x.lookup_variants
  have hids : ∀ ids : List ViewId,
      decodeItems decodeInt32 (ids.map fun id => .integer id.toInt) = .ok ids :=
    fun ids => decodeItems_map fun id _ => decodeInt32_toInt id
  cases line <;> cases bindView <;> cases onClick <;>
    simp [filling, schema, Filling.put, decodeText, decodeList, decodeOption, Except.map, hkind,
      hparams, hmodifiers, hids, decodeUInt32_toNat, decodeInt32_toInt]

theorem decode_toJson (m : MemberEntry) :
    (schema .json).decode .json m.toJson.document = .ok m := by
  rw [document_toJson, Schema.decode_entries .json (by decide) rfl, put_filling]
  simp [filling, schema]

theorem hasWords_toJson (m : MemberEntry) : m.toJson.HasWords := by
  refine .object ?_
  simp only [List.forall_mem_append, List.forall_mem_cons]
  exact ⟨⟨⟨⟨.text _, .text _, .text _, .texts _, .texts _, by simp⟩, .field? .natural _⟩,
    .field? .int32 _⟩, .field? (.map .int32) _⟩

end MemberEntry

namespace ClassEntry

/-- The fields of a class with the documents that are written for them. -/
def filling (c : ClassEntry) : Filling ClassEntry :=
  (schema .json).fields.zip [
    some (.text c.name),
    c.package.map .text,
    c.source.map .text,
    some (.list (c.members.map fun m => m.toJson.document))]

theorem document_toJson (c : ClassEntry) : c.toJson.document = .record c.filling.entries := by
  obtain ⟨name, package, source, members⟩ := c
  cases package <;> cases source <;>
    simp [toJson, filling, Filling.entries, schema, Json.document, Json.entries_eq_map,
      Json.documents_eq_map, Json.field?]

theorem put_filling (c : ClassEntry) : c.filling.put (schema .json).blank = .ok c := by
  obtain ⟨name, package, source, members⟩ := c
  have hmembers : decodeItems ((MemberEntry.schema .json).decode .json)
      (members.map fun m => m.toJson.document) = .ok members :=
    decodeItems_map fun m _ => m.decode_toJson
  cases package <;> cases source <;>
    simp [filling, schema, Filling.put, decodeText, decodeList, decodeOption, Except.map, hmembers]

theorem decode_toJson (c : ClassEntry) :
    (schema .json).decode .json c.toJson.document = .ok c := by
  rw [document_toJson, Schema.decode_entries .json (by decide) rfl, put_filling]
  simp [filling, schema]

theorem hasWords_toJson (c : ClassEntry) : c.toJson.HasWords := by
  refine .object ?_
  simp only [List.forall_mem_append, List.forall_mem_singleton]
  exact ⟨⟨⟨.text _, .field? .text _⟩, .field? .text _⟩, .map MemberEntry.hasWords_toJson _⟩

end ClassEntry

namespace Manifest

/-- The fields of a manifest with the documents that are written for them. -/
def filling (m : Manifest) : Filling Manifest :=
  (schema .json).fields.zip [
    m.sourceVersion.map fun release => .integer release.toNat,
    some (.list (m.classes.map fun c => c.toJson.document))]

theorem document_toJson (m : Manifest) : m.toJson.document = .record m.filling.entries := by
  obtain ⟨sourceVersion, classes⟩ := m
  cases sourceVersion <;>
    simp [toJson, filling, Filling.entries, schema, Json.document, Json.entries_eq_map,
      Json.documents_eq_map, Json.field?, Json.natural]

theorem put_filling (m : Manifest) : m.filling.put (schema .json).blank = .ok m := by
  obtain ⟨sourceVersion, classes⟩ := m
  have hclasses : decodeItems ((ClassEntry.schema .json).decode .json)
      (classes.map fun c => c.toJson.document) = .ok classes :=
    decodeItems_map fun c _ => c.decode_toJson
  cases sourceVersion <;>
    simp [filling, schema, Filling.put, decodeList, decodeOption, Except.map, hclasses,
      decodeUInt32_toNat]

theorem decode_toJson (m : Manifest) :
    (schema .json).decode .json m.toJson.document = .ok m := by
  rw [document_toJson, Schema.decode_entries .json (by decide) rfl, put_filling]
  simp [filling, schema]

theorem hasWords_toJson (m : Manifest) : m.toJson.HasWords := by
  refine .object ?_
  simp only [List.forall_mem_append, List.forall_mem_singleton]
  exact ⟨.field? .natural _, .map ClassEntry.hasWords_toJson _⟩

end Manifest

/-! ## Diagnostics -/

namespace Location

/-- The fields of a place with the documents that are written for them. -/
def filling (l : Location) : Filling Location :=
  schema.fields.zip [l.file.map .text, l.line.map fun line => .integer line.toNat]

theorem document_toJson (l : Location) : l.toJson.document = .record l.filling.entries := by
  obtain ⟨file, line⟩ := l
  cases file <;> cases line <;>
    simp [toJson, filling, Filling.entries, schema, Json.document, Json.entries_eq_map,
      Json.field?, Json.natural]

theorem put_filling (l : Location) : l.filling.put schema.blank = .ok l := by
  obtain ⟨file, line⟩ := l
  cases file <;> cases line <;>
    simp [filling, schema, Filling.put, decodeText, decodeOption, Except.map, decodeUInt32_toNat]

theorem decode_toJson (l : Location) : schema.decode .json l.toJson.document = .ok l := by
  rw [document_toJson, Schema.decode_entries .json (by decide) rfl, put_filling]
  simp [filling, schema]

theorem hasWords_toJson (l : Location) : l.toJson.HasWords := by
  refine .object ?_
  simp only [List.forall_mem_append]
  exact ⟨.field? .text _, .field? .natural _⟩

end Location

namespace Diagnostic

/-- The fields of a diagnostic with the documents that are written for them. -/
def filling (d : Diagnostic) : Filling Diagnostic :=
  schema.fields.zip [
    some (.text d.level.key),
    some (.text d.message),
    d.subject.map .text,
    d.location.map fun l => l.toJson.document]

theorem document_toJson (d : Diagnostic) : d.toJson.document = .record d.filling.entries := by
  obtain ⟨level, message, subject, location⟩ := d
  cases subject <;> cases location <;>
    simp [toJson, filling, Filling.entries, schema, Json.document, Json.entries_eq_map,
      Json.field?]

theorem put_filling (d : Diagnostic) : d.filling.put schema.blank = .ok d := by
  obtain ⟨level, message, subject, location⟩ := d
  have hlevel := decodeJsonVariant_text level.lookup_variants
  -- A location is a record, also one of which nothing is known.
  have hlocation : ∀ l : Location,
      decodeOption (Location.schema.decode .json) l.toJson.document = .ok (some l) := fun l =>
    decodeOption_of_ne_null (by rw [l.document_toJson]; simp) l.decode_toJson
  have hsubject : ∀ s : String, decodeOption (decodeText "a string") (.text s) = .ok (some s) :=
    fun _ => rfl
  cases subject <;> cases location <;>
    simp [filling, schema, Filling.put, decodeText, Except.map, hlevel, hsubject, hlocation]

theorem decode_toJson (d : Diagnostic) : schema.decode .json d.toJson.document = .ok d := by
  rw [document_toJson, Schema.decode_entries .json (by decide) rfl, put_filling]
  simp [filling, schema]

theorem hasWords_toJson (d : Diagnostic) : d.toJson.HasWords := by
  refine .object ?_
  simp only [List.forall_mem_append, List.forall_mem_cons]
  exact ⟨⟨⟨.text _, .text _, by simp⟩, .field? .text _⟩, .field? Location.hasWords_toJson _⟩

end Diagnostic

/-! ## Texts -/

/-- A JSON text is decoded as the document of the value it was written for. -/
theorem decodeJson_render {α : Type} {decode : Decoder α} {j : Json} (h : j.HasWords) {a : α}
    (hdecode : decode j.document = .ok a) : decodeJson decode j.render = .ok a := by
  rw [decodeJson_eq_ok_iff, h.readJson_render]
  exact ⟨hdecode, rfl⟩

/-- Manifests and diagnostics come back from their JSON. -/
theorem ofJson_render :
    (∀ m : Manifest, Manifest.ofJson m.toJson.render = .ok m) ∧
      ∀ d : Diagnostic, Diagnostic.ofJson d.toJson.render = .ok d :=
  ⟨fun m => decodeJson_render m.hasWords_toJson m.decode_toJson,
    fun d => decodeJson_render d.hasWords_toJson d.decode_toJson⟩

end ViewBinding
