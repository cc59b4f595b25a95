import ViewBinding.Proofs.Java.Names
import ViewBinding.Proofs.Placement
import ViewBinding.Proofs.Text.Cutting

/-!
# Reading a symbol back

The symbol of a field is made of its class and its name. That of a method goes on with its parameter
list, which holds no opening bracket where the types are class names. So of two members of one class
a symbol gives back the name, and of methods that handle clicks the parameters too. Where the class
and the name are legal, and the types in the parameter list are written without commas, a symbol
gives back all its parts.

* `Declaration.name_eq_of_symbolKey_eq`: fields of a class with one symbol.
* `Declaration.signature_eq_of_symbolKey_eq`: handlers of a class with one symbol.
* `Declaration.Legible.parts_eq`: any legible declarations with one symbol.
-/

namespace ViewBinding

open Java Text

theorem Java.isIdentifierPart_bracket : isIdentifierPart '(' = false := by decide

namespace Declaration

variable {d e : Declaration}

/-- The parameter list as it stands in a symbol. -/
def paramText (d : Declaration) : String :=
  ", ".intercalate d.params

theorem toList_symbolKey_of_callable (h : d.kind.isCallable = true) :
    d.symbolKey.toList =
      (d.ownerName ++ "#" ++ d.name).toList ++ '(' :: (d.paramText.toList ++ [')']) := by
  simp [symbolKey, h, paramText]

/-- Fields of one class with one symbol have one name. -/
theorem name_eq_of_symbolKey_eq (hd : d.kind.isCallable = false) (he : e.kind.isCallable = false)
    (howner : d.ownerName = e.ownerName) (h : d.symbolKey = e.symbolKey) : d.name = e.name := by
  simp only [symbolKey, hd, he, howner, Bool.false_eq_true, if_false] at h
  exact String.append_right_inj _ |>.mp h

/-- A method that handles clicks takes nothing or a value of a class. -/
theorem params_of_handler {place : Placed} (h : d.placeAs .onClick = .ok place) :
    d.params = [] ∨ ∃ type, d.params = [type] ∧ IsQualifiedName type := by
  obtain ⟨-, -, -, harity, hparam, -⟩ := placeAs_eq_ok_iff.mp h
  have hlen := Placement.checkArity_eq_ok_iff.mp harity (place_table h)
  have htype := Placement.checkParameter_eq_ok_iff.mp hparam
  cases hp : d.params with
  | nil => exact .inl rfl
  | cons type rest =>
    rw [hp] at hlen htype
    obtain rfl : rest = [] := List.eq_nil_of_length_eq_zero (by simpa using hlen)
    exact .inr ⟨type, rfl, (isClassType_iff.mp (htype type rfl)).2⟩

theorem not_mem_paramText_of_handler {place : Placed} (h : d.placeAs .onClick = .ok place) :
    '(' ∉ d.paramText.toList := by
  unfold paramText
  rcases params_of_handler h with hp | ⟨type, hp, hlegal⟩
  · rw [hp]
    exact List.not_mem_nil
  · rw [hp]
    exact hlegal.not_mem (by decide) isIdentifierPart_bracket

theorem separable_params_of_handler {place : Placed} (h : d.placeAs .onClick = .ok place) :
    ∀ type ∈ d.params, type ≠ "" ∧ ',' ∉ type.toList := by
  intro type hmem
  rcases params_of_handler h with hp | ⟨type', hp, hlegal⟩
  · rw [hp] at hmem
    cases hmem
  · obtain rfl : type = type' := List.mem_singleton.mp (hp ▸ hmem)
    refine ⟨?_, hlegal.not_mem (by decide) (by decide)⟩
    rintro rfl
    exact absurd hlegal (by decide)

/-- Handlers of one class with one symbol have one name and the same parameters. -/
theorem signature_eq_of_symbolKey_eq {place place' : Placed} (hd : d.placeAs .onClick = .ok place)
    (he : e.placeAs .onClick = .ok place') (howner : d.ownerName = e.ownerName)
    (h : d.symbolKey = e.symbolKey) : d.name = e.name ∧ d.params = e.params := by
  have hkey := congrArg String.toList h
  have hclosed {d : Declaration} {place : Placed} (hd : d.placeAs .onClick = .ok place) :
      '(' ∉ d.paramText.toList ++ [')'] := by
    simpa using not_mem_paramText_of_handler hd
  rw [toList_symbolKey_of_callable (by rw [place_target hd]; rfl),
    toList_symbolKey_of_callable (by rw [place_target he]; rfl), howner] at hkey
  obtain ⟨hname, hparams⟩ := append_sep_inj (hclosed hd) (hclosed he) hkey
  rw [List.append_cancel_right_eq, String.toList_inj] at hparams
  rw [String.toList_inj] at hname
  refine ⟨String.append_right_inj _ |>.mp hname, ?_⟩
  exact intercalate_inj ',' rfl (separable_params_of_handler hd) (separable_params_of_handler he)
    hparams

/-! ## All parts of a symbol -/

/-- The symbol of the declaration can be taken apart: there are legal names in it, and types that
neither are empty nor hold a comma. -/
structure Legible (d : Declaration) : Prop where
  owner : IsQualifiedName d.ownerName
  name : IsIdentifier d.name
  params : ∀ type ∈ d.params, type ≠ "" ∧ ',' ∉ type.toList

/-- What stands behind the name. -/
def signatureText (d : Declaration) : String :=
  if d.kind.isCallable then "(" ++ (d.paramText ++ ")") else ""

theorem symbolKey_eq (d : Declaration) :
    d.symbolKey = d.ownerName ++ ("#" ++ (d.name ++ d.signatureText)) := by
  unfold symbolKey signatureText paramText
  cases d.kind.isCallable <;> simp [String.append_assoc]

/-- A name ends in front of the parameter list, or with the symbol. -/
theorem stop_of_signatureText (d : Declaration) :
    ∀ c ∈ d.signatureText.toList.head?, Java.isIdentifierPart c = false := by
  intro c hc
  unfold signatureText at hc
  split at hc
  · rw [String.toList_append] at hc
    obtain rfl : '(' = c := Option.some.inj hc
    exact isIdentifierPart_bracket
  · cases hc

/-- The parameter list tells a callable declaration from any other, and its parameters. -/
theorem Legible.signature_eq (hd : d.Legible) (he : e.Legible)
    (h : d.signatureText = e.signatureText) :
    d.kind.isCallable = e.kind.isCallable ∧ (d.kind.isCallable = true → d.params = e.params) := by
  unfold signatureText at h
  cases hkind : d.kind.isCallable <;> cases hkind' : e.kind.isCallable <;>
    simp only [hkind, hkind', if_true, Bool.false_eq_true, if_false] at h
  · exact ⟨rfl, fun hc => by cases hc⟩
  · rw [eq_comm, String.append_eq_empty_iff] at h
    exact absurd h.1 (by decide)
  · rw [String.append_eq_empty_iff] at h
    exact absurd h.1 (by decide)
  · rw [String.append_right_inj, String.append_left_inj] at h
    exact ⟨rfl, fun _ => intercalate_inj ',' rfl hd.params he.params h⟩

/-- Legible declarations with one symbol have one class, one name, and one parameter list if they
have any. -/
theorem Legible.parts_eq (hd : d.Legible) (he : e.Legible) (h : d.symbolKey = e.symbolKey) :
    d.ownerName = e.ownerName ∧ d.name = e.name ∧ d.kind.isCallable = e.kind.isCallable ∧
      (d.kind.isCallable = true → d.params = e.params) := by
  rw [symbolKey_eq, symbolKey_eq] at h
  obtain ⟨howner, hrest⟩ := append_inj_of_mark '#' (hd.owner.not_mem (by decide) (by decide))
    (he.owner.not_mem (by decide) (by decide)) rfl rfl h
  rw [String.append_right_inj] at hrest
  obtain ⟨hname, hsignature⟩ := append_inj_of_stop (fun _ => hd.name.isIdentifierPart)
    (fun _ => he.name.isIdentifierPart) d.stop_of_signatureText e.stop_of_signatureText hrest
  exact ⟨howner, hname, hd.signature_eq he hsignature⟩

end Declaration

end ViewBinding
