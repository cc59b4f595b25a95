import Mathlib.Tactic.ByContra
import ViewBinding.Java.TypeName
import ViewBinding.Proofs.Java.Names

/-!
# Class types among the declared types

Blanks may stand around a declared type, and `[]` after it. A class type has neither: it is a legal
name as it stands.

* `isClassType_iff_isQualifiedName`: the class types are the legal names.
* `isClassType_iff_isViewType`: of the declared types, these are the types of views that are written
  without blanks around them.
-/

namespace ViewBinding.Java

open Text

/-! ## Blanks -/

theorem isIdentifierPart_of_isBlank {c : Char} (h : isBlank c = true) :
    isIdentifierPart c = false := by
  have hruns : ∀ run ∈ blankRuns, ∀ k < run.2 - run.1 + 1,
      isIdentifierPart (Char.ofNat (run.1 + k)) = false := by decide +kernel
  obtain ⟨run, hrun, hfirst, hlast⟩ := inRuns_iff.mp h
  have hpart := hruns run hrun (c.toNat - run.1) (by omega)
  rwa [Nat.add_sub_cancel' hfirst, Char.ofNat_toNat] at hpart

theorem IsQualifiedName.not_isBlank {name : String} (h : IsQualifiedName name) {c : Char}
    (hc : c ∈ name.toList) : isBlank c = false := by
  by_contra hblank
  rw [Bool.not_eq_false] at hblank
  have hdot : c ≠ '.' := by
    rintro rfl
    revert hblank
    decide
  exact h.not_mem hdot (isIdentifierPart_of_isBlank hblank) hc

theorem trimStart_of_not_isBlank {cs : List Char} (h : ∀ c ∈ cs, isBlank c = false) :
    trimStart cs = cs := by
  cases cs with
  | nil => rfl
  | cons c cs => exact trimStart_eq_self (h c List.mem_cons_self)

theorem trimEnd_of_not_isBlank {cs : List Char} (h : ∀ c ∈ cs, isBlank c = false) :
    trimEnd cs = cs := by
  rw [trimEnd, trimStart_of_not_isBlank fun c hc => h c (List.mem_reverse.mp hc),
    List.reverse_reverse]

/-- A legal name has no blanks to be trimmed. -/
theorem IsQualifiedName.trim_eq {name : String} (h : IsQualifiedName name) :
    trim name.toList = name.toList := by
  have hno : ∀ c ∈ name.toList, isBlank c = false := fun c hc => h.not_isBlank hc
  rw [trim, trimStart_of_not_isBlank hno, trimEnd_of_not_isBlank hno]

/-! ## Brackets -/

theorem IsQualifiedName.not_mem_bracket {name : String} (h : IsQualifiedName name) :
    ']' ∉ name.toList :=
  h.not_mem (by decide) (by decide)

/-- The type ends, blanks aside, with `[]`. -/
def IsArray (type : String) : Prop :=
  ['[', ']'] <:+ trim type.toList

instance (type : String) : Decidable (IsArray type) :=
  inferInstanceAs (Decidable (['[', ']'] <:+ trim type.toList))

/-- The type of a view: no primitive and no array, whatever the blanks around it. -/
def IsViewType (type : String) : Prop :=
  isPrimitive (elementType type) = false ∧ ¬ IsArray type

instance (type : String) : Decidable (IsViewType type) :=
  inferInstanceAs (Decidable (_ ∧ _))

theorem IsQualifiedName.not_isArray {name : String} (h : IsQualifiedName name) :
    ¬ IsArray name := by
  intro harray
  rw [IsArray, h.trim_eq] at harray
  exact h.not_mem_bracket (harray.subset (by simp))

/-- What is left of a type that is no array is the type without the blanks around it. -/
theorem elementType_of_not_isArray {type : String} (h : ¬ IsArray type) :
    elementType type = String.ofList (trim type.toList) := by
  have hend : ∀ rest, (trim type.toList).reverse ≠ ']' :: '[' :: rest := by
    intro rest hrest
    refine h ⟨rest.reverse, ?_⟩
    rw [← List.reverse_reverse (trim type.toList), hrest]
    simp
  rw [elementType, dropBracketsReversed]
  · rw [List.reverse_reverse]
  · exact hend

/-! ## Class types -/

/-- The names of the primitive types are reserved words. -/
theorem IsQualifiedName.not_isPrimitive {name : String} (h : IsQualifiedName name) :
    isPrimitive name = false := by
  have hwords : ∀ word ∈ primitiveTypes, ¬ IsQualifiedName word := by decide
  by_contra hprimitive
  rw [Bool.not_eq_false, isPrimitive, List.contains_iff_mem] at hprimitive
  exact hwords name hprimitive h

/-- The class types are the legal names. -/
theorem isClassType_iff_isQualifiedName {type : String} :
    isClassType type = true ↔ IsQualifiedName type := by
  rw [isClassType_iff, and_iff_right_iff_imp]
  intro h
  have hno : ∀ c ∈ type.toList, isBlank c = false := fun c hc => h.not_isBlank hc
  rw [endsWithBracket, trimEnd_of_not_isBlank hno, beq_eq_false_iff_ne]
  intro hlast
  exact h.not_mem_bracket (List.mem_of_getLast? hlast)

/-- A declared type is a class type exactly if it is the type of a view and has no blanks around
it. -/
theorem isClassType_iff_isViewType {type : String} (h : checkType type = .ok ()) :
    isClassType type = true ↔ IsViewType type ∧ trim type.toList = type.toList := by
  rw [isClassType_iff_isQualifiedName]
  constructor
  · intro hname
    refine ⟨⟨?_, hname.not_isArray⟩, hname.trim_eq⟩
    rw [elementType_of_not_isArray hname.not_isArray, hname.trim_eq, String.ofList_toList]
    exact hname.not_isPrimitive
  · rintro ⟨⟨hprimitive, harray⟩, htrim⟩
    have helement : elementType type = type := by
      rw [elementType_of_not_isArray harray, htrim, String.ofList_toList]
    rw [helement] at hprimitive
    rw [checkType_eq_ok_iff, helement, hprimitive] at h
    exact h.resolve_left Bool.false_ne_true

end ViewBinding.Java
