import Mathlib.Data.List.Nodup
import ViewBinding.Document.Shape

/-!
# Decoding what was written

The decoders undo the encoders, one for each kind of value. A structure is written as a record with
its fields in their order, and a field without a value is left out; decoding such a record puts in
the values that are there, one after the other.

* `decodeItems_map`: a list decodes if each of its items does;
* `Schema.decode_entries`: a record of the fields in their order decodes to the blank structure
  with the values put in.
-/

namespace ViewBinding.Document

/-! ## Values -/

theorem decodeUInt32_toNat (n : UInt32) : decodeUInt32 (integer n.toNat) = .ok n := by
  have hlow : (0 : Int) ≤ n.toNat := Int.natCast_nonneg _
  have hhigh : (n.toNat : Int) ≤ 0xFFFFFFFF := by
    have h := n.toNat_lt
    omega
  simp [decodeUInt32, decodeInteger, hlow, hhigh, Except.map]

theorem decodeInt32_toInt (n : Int32) : decodeInt32 (integer n.toInt) = .ok n := by
  have hlow := n.le_toInt
  have hhigh := n.toInt_lt
  have hfits : -0x80000000 ≤ n.toInt ∧ n.toInt ≤ 0x7FFFFFFF := by omega
  simp [decodeInt32, decodeInteger, hfits, Except.map]

variable {α : Type}

theorem decodeItems_map {decode : Decoder α} {encode : α → Document} {items : List α}
    (h : ∀ item ∈ items, decode (encode item) = .ok item) :
    decodeItems decode (items.map encode) = .ok items := by
  induction items with
  | nil => rfl
  | cons item items ih =>
    have hitem := h item List.mem_cons_self
    have hitems := ih fun other hother => h other (List.mem_cons_of_mem _ hother)
    simp only [List.map_cons, decodeItems, hitem, hitems]
    rfl

/-- A document other than `null` decodes as a value that is there. -/
theorem decodeOption_of_ne_null {decode : Decoder α} {d : Document} {a : α} (hd : d ≠ null)
    (h : decode d = .ok a) : decodeOption decode d = .ok (some a) := by
  unfold decodeOption
  split
  · exact absurd rfl hd
  · rw [h]; rfl

theorem decodeJsonVariant_text {variants : List (String × α)} {name : String} {a : α}
    (h : variants.lookup name = some a) : decodeVariant .json variants (text name) = .ok a := by
  simp [decodeVariant, decodeJsonVariant, variantNamed, h]

/-! ## Structures -/

/-- Fields with the documents of their values, where these are there. -/
abbrev Filling (α : Type) := List (Field α × Option Document)

namespace Filling

/-- The entries of the values that are there. -/
def entries (filling : Filling α) : List (Option String × Document) :=
  filling.filterMap fun p => p.2.map (some p.1.key, ·)

/-- Puts in the values that are there, field by field. -/
def put : Filling α → α → Except ShapeError α
  | [], a => .ok a
  | (_, none) :: rest, a => put rest a
  | (f, some d) :: rest, a =>
    match f.put d a with
    | .error e => .error e
    | .ok a => put rest a

end Filling

namespace Schema

variable {s : Schema α} {filling : Filling α}

theorem field?_of_mem (hkeys : s.keys.Nodup) {f : Field α} (hf : f ∈ s.fields) :
    s.field? f.key = some f := by
  unfold field?
  cases hfound : s.fields.find? (·.key = f.key) with
  | none =>
    have hnone := List.find?_eq_none.mp hfound f hf
    simp at hnone
  | some g =>
    have hkey : g.key = f.key := by simpa using List.find?_some hfound
    have hg := List.mem_of_find?_eq_some hfound
    rw [List.inj_on_of_nodup_map hkeys hg hf hkey]

/-- The fields behind those that were gone through are put in. -/
theorem putEntries_entries (hkeys : s.keys.Nodup) (front : List (Field α))
    (hfields : s.fields = front ++ filling.map (·.1))
    (hrequired : ∀ p ∈ filling, p.1.required = true → p.2.isSome = true) (a : α)
    {seen : List String} (hseen : ∀ f ∈ front, f.required = true → f.key ∈ seen)
    (hfront : ∀ key ∈ seen, key ∈ front.map (·.key)) :
    s.putEntries a seen filling.entries = filling.put a := by
  -- The fields before the current one are those that were seen, so the record can miss none of
  -- them, and the current one is new.
  induction filling generalizing front a seen with
  | nil =>
    have hmissing : s.missing? seen = none := by
      rw [missing?, hfields, List.map_nil, List.append_nil, Option.map_eq_none_iff,
        List.find?_eq_none]
      intro f hf
      by_cases hr : f.required = true
      · simp [hseen f hf hr]
      · simp [hr]
    simp [Filling.entries, putEntries, hmissing, Filling.put]
  | cons p rest ih =>
    obtain ⟨f, d⟩ := p
    have hnext : s.fields = (front ++ [f]) ++ rest.map (·.1) := by simp [hfields]
    have hrest : ∀ p ∈ rest, p.1.required = true → p.2.isSome = true :=
      fun p hp => hrequired p (List.mem_cons_of_mem _ hp)
    cases d with
    | none =>
      have hf : f.required = false := by
        by_contra hr
        have := hrequired (f, none) List.mem_cons_self (by simpa using hr)
        cases this
      refine ih _ hnext hrest a (fun g hg hr => ?_) (fun key hkey => ?_)
      · rcases List.mem_append.mp hg with hg | hg
        · exact hseen g hg hr
        · rw [List.mem_singleton.mp hg, hf] at hr
          cases hr
      · rw [List.map_append]
        exact List.mem_append_left _ (hfront key hkey)
    | some d =>
      have hmem : f ∈ s.fields := by simp [hfields]
      have hfresh : f.key ∉ seen := by
        intro hkey
        rw [keys, hfields, List.map_append] at hkeys
        exact List.disjoint_of_nodup_append hkeys (hfront _ hkey) (by simp)
      have hentries : Filling.entries ((f, some d) :: rest) =
          (some f.key, d) :: Filling.entries rest := rfl
      rw [hentries, putEntries, field?_of_mem hkeys hmem]
      simp only [List.contains_eq_mem, hfresh, decide_false, Bool.false_eq_true, if_false,
        Filling.put]
      cases hput : f.put d a with
      | error e => rfl
      | ok b =>
        refine ih _ hnext hrest b (fun g hg hr => ?_) (fun key hkey => ?_)
        · rcases List.mem_append.mp hg with hg | hg
          · exact List.mem_cons_of_mem _ (hseen g hg hr)
          · rw [List.mem_singleton.mp hg]
            exact List.mem_cons_self
        · rw [List.map_append]
          rcases List.mem_cons.mp hkey with rfl | hkey
          · exact List.mem_append_right _ (by simp)
          · exact List.mem_append_left _ (hfront key hkey)

/-- A record of the fields in their order decodes to the blank structure with the values put in. -/
theorem decode_entries (format : Format) (hkeys : s.keys.Nodup)
    (hfields : filling.map (·.1) = s.fields)
    (hrequired : ∀ p ∈ filling, p.1.required = true → p.2.isSome = true) :
    s.decode format (.record filling.entries) = filling.put s.blank :=
  putEntries_entries hkeys [] hfields.symm hrequired s.blank (by simp) (by simp)

end Schema

end ViewBinding.Document
