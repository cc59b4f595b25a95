import ViewBinding.Proofs.Java.TypeGrammar
import ViewBinding.Proofs.Text.Delimiters
import ViewBinding.Proofs.Text.Digits

/-!
# Names and types leave the structure of a source alone

No legal name holds a delimiter or ends a statement. A declared type may hold brackets, but each
opening one is closed at once.

* `IsQualifiedName.neutral`: legal names.
* `neutral_of_checkType`: declared types.
* `mem_of_checkType`: the characters that a declared type holds.
* `neutral_toString`: numbers.
-/

namespace ViewBinding.Java

open Text

/-! ## Names -/

/-- The bases of types hold neither delimiters nor what ends a statement. -/
theorem IsTypeBase.not_mem_marks {base : List Char} (h : IsTypeBase base) :
    ∀ c ∈ base, c ∉ marks := by
  refine Text.not_mem_marks (p := fun c => c = '.' || Java.isIdentifierPart c) (by decide)
    fun c hc => ?_
  rw [Bool.or_eq_true, decide_eq_true_eq]
  exact h.isIdentifierPart hc

theorem IsQualifiedName.not_mem_marks {name : String} (h : IsQualifiedName name) :
    ∀ c ∈ name.toList, c ∉ marks :=
  (isTypeBase_iff.mpr (.inr h)).not_mem_marks

/-- A legal name is neutral. -/
theorem IsQualifiedName.neutral {name : String} (h : IsQualifiedName name) : Neutral name.toList :=
  neutral_of_plain h.not_mem_marks

theorem IsQualifiedName.braceless {name : String} (h : IsQualifiedName name) :
    Braceless name.toList :=
  braceless_of_plain h.not_mem_marks

theorem IsIdentifier.neutral {text : String} (h : IsIdentifier text) : Neutral text.toList :=
  h.isQualifiedName.neutral

/-! ## Types -/

theorem IsTypeBase.neutral {base : List Char} (h : IsTypeBase base) : Neutral base :=
  neutral_of_plain h.not_mem_marks

theorem IsBlanks.neutral {cs : List Char} (h : IsBlanks cs) : Neutral cs :=
  neutral_of_plain (not_mem_marks (by decide) h)

/-- Each opening bracket is closed at once. -/
theorem IsBrackets.neutral {groups : List Char} (h : IsBrackets groups) : Neutral groups := by
  induction h with
  | none => exact neutral_nil
  | more hgroups hblanks ih =>
    have hpair : Neutral ['[', ']'] := ⟨by decide, by decide⟩
    exact (ih.append hblanks.neutral).append hpair

/-- A declared type is neutral. -/
theorem neutral_of_checkType {type : String} (h : checkType type = .ok ()) :
    Neutral type.toList := by
  have hbase : IsTypeBase (elementType type).toList :=
    isTypeBase_iff.mpr (checkType_eq_ok_iff.mp h)
  obtain ⟨front, groups, back, hfront, hgroups, hback, heq⟩ := exists_isTypeText_parts type
  rw [heq]
  exact (hfront.neutral.append (hbase.neutral.append hgroups.neutral)).append hback.neutral

/-! ## The characters of a type -/

theorem IsBrackets.mem {groups : List Char} (h : IsBrackets groups) {c : Char} (hc : c ∈ groups) :
    isBlank c = true ∨ c = '[' ∨ c = ']' := by
  induction h with
  | none => cases hc
  | more hgroups hblanks ih =>
    rw [List.append_assoc, List.mem_append, List.mem_append, List.mem_pair] at hc
    rcases hc with hc | hc | hc
    · exact ih hc
    · exact .inl (hblanks c hc)
    · exact .inr hc

/-- A declared type holds blanks, brackets and the characters of names, and no others. -/
theorem mem_of_checkType {type : String} (h : checkType type = .ok ()) {c : Char}
    (hc : c ∈ type.toList) :
    isBlank c = true ∨ c = '[' ∨ c = ']' ∨ c = '.' ∨ isIdentifierPart c = true := by
  have hbase : IsTypeBase (elementType type).toList :=
    isTypeBase_iff.mpr (checkType_eq_ok_iff.mp h)
  obtain ⟨front, groups, back, hfront, hgroups, hback, heq⟩ := exists_isTypeText_parts type
  rw [heq, List.mem_append, List.mem_append, List.mem_append] at hc
  rcases hc with (hc | hc | hc) | hc
  · exact .inl (hfront c hc)
  · exact .inr (.inr (.inr (hbase.isIdentifierPart hc)))
  · rcases hgroups.mem hc with hblank | rfl | rfl
    · exact .inl hblank
    · exact .inr (.inl rfl)
    · exact .inr (.inr (.inl rfl))
  · exact .inl (hback c hc)

end ViewBinding.Java

namespace ViewBinding

open Text

/-! ## Numbers -/

/-- The decimal digits of a number are neutral, and so is its sign. -/
theorem neutral_toString (n : Int) : Neutral (toString n).toList := by
  refine neutral_of_plain (not_mem_marks (p := fun c => c = '-' || c.isDigit) (by decide)
    fun c hc => ?_)
  rw [Bool.or_eq_true, decide_eq_true_eq]
  exact mem_toString hc

end ViewBinding
