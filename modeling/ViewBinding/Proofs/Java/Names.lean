import ViewBinding.Java.QualifiedName
import ViewBinding.Proofs.Text.Segments

/-!
# The characters and the segments of legal names

An identifier holds identifier characters only, so no dot, slash or bracket. A dotted name is legal
exactly if the parts on both sides of any of its dots are.

* `IsIdentifier.not_mem`: a character that identifiers cannot hold is in none of them.
* `isQualifiedName_append_dot`: a legal name cut at a dot.
-/

namespace ViewBinding.Java

open ViewBinding.Text

/-! ## Identifiers -/

/-- An identifier begins with a start character and holds identifier characters only. -/
theorem hasIdentifierShape_iff {cs : List Char} :
    hasIdentifierShape cs = true ↔
      (∃ c ∈ cs.head?, isIdentifierStart c = true) ∧ ∀ c ∈ cs, isIdentifierPart c = true := by
  cases cs with
  | nil => simp [hasIdentifierShape]
  | cons c rest =>
    simp only [hasIdentifierShape, Bool.and_eq_true, List.all_eq_true, List.head?_cons,
      Option.mem_some_iff, exists_eq_left', List.forall_mem_cons]
    constructor
    · rintro ⟨hc, hrest⟩
      exact ⟨hc, isIdentifierPart_of_start hc, hrest⟩
    · rintro ⟨hc, -, hrest⟩
      exact ⟨hc, hrest⟩

theorem IsIdentifier.isIdentifierPart {text : String} (h : IsIdentifier text) {c : Char}
    (hc : c ∈ text.toList) : isIdentifierPart c = true :=
  (hasIdentifierShape_iff.mp h.1).2 c hc

theorem IsIdentifier.not_mem {text : String} (h : IsIdentifier text) {c : Char}
    (hc : Java.isIdentifierPart c = false) : c ∉ text.toList := fun hmem => by
  rw [h.isIdentifierPart hmem] at hc
  cases hc

theorem IsIdentifier.toList_ne_nil {text : String} (h : IsIdentifier text) : text.toList ≠ [] := by
  obtain ⟨⟨c, hc, -⟩, -⟩ := hasIdentifierShape_iff.mp h.1
  intro hnil
  rw [hnil] at hc
  cases hc

theorem isIdentifierPart_dot : isIdentifierPart '.' = false := by decide

theorem isIdentifierPart_slash : isIdentifierPart '/' = false := by decide

theorem isIdentifierPart_dollar : isIdentifierPart '$' = true := by decide

/-! ## Qualified names -/

theorem isQualifiedName_iff {name : String} :
    IsQualifiedName name ↔
      ∀ piece ∈ segments '.' name.toList, IsIdentifier (String.ofList piece) := by
  simp [IsQualifiedName, nameSegments]

theorem isQualifiedName_append_dot {cs rest : List Char} :
    IsQualifiedName (String.ofList (cs ++ '.' :: rest)) ↔
      IsQualifiedName (String.ofList cs) ∧ IsQualifiedName (String.ofList rest) := by
  simp only [isQualifiedName_iff, String.toList_ofList, segments_append_sep, List.forall_mem_append]

/-- An identifier is one segment. -/
theorem IsIdentifier.segments_eq {text : String} (h : IsIdentifier text) :
    segments '.' text.toList = [text.toList] :=
  segments_of_not_mem (h.not_mem isIdentifierPart_dot)

theorem IsIdentifier.isQualifiedName {text : String} (h : IsIdentifier text) :
    IsQualifiedName text := by
  rw [isQualifiedName_iff, h.segments_eq, List.forall_mem_singleton, String.ofList_toList]
  exact h

/-- A legal name holds dots and identifier characters only. -/
theorem IsQualifiedName.isIdentifierPart {name : String} (h : IsQualifiedName name) {c : Char}
    (hc : c ∈ name.toList) : c = '.' ∨ isIdentifierPart c = true := by
  refine (mem_segments_of_mem hc).imp_right ?_
  rintro ⟨piece, hpiece, hmem⟩
  exact (isQualifiedName_iff.mp h piece hpiece).isIdentifierPart (by rwa [String.toList_ofList])

theorem IsQualifiedName.not_mem {name : String} (h : IsQualifiedName name) {c : Char}
    (hdot : c ≠ '.') (hc : Java.isIdentifierPart c = false) : c ∉ name.toList := fun hmem => by
  rcases h.isIdentifierPart hmem with hd | hp
  · exact hdot hd
  · rw [hp] at hc
    cases hc

/-- A legal name begins as an identifier does. -/
theorem IsQualifiedName.head {name : String} (h : IsQualifiedName name) :
    ∃ c ∈ name.toList.head?, isIdentifierStart c = true := by
  obtain ⟨first, rest, hs⟩ := List.exists_cons_of_ne_nil (segments_ne_nil '.' name.toList)
  have hfirst := isQualifiedName_iff.mp h first (hs ▸ List.mem_cons_self)
  obtain ⟨⟨c, hc, hstart⟩, -⟩ := hasIdentifierShape_iff.mp hfirst.1
  rw [String.toList_ofList] at hc
  refine ⟨c, ?_, hstart⟩
  obtain ⟨tail, rfl⟩ := List.head?_eq_some_iff.mp hc
  rw [← joinWith_segments '.' name.toList, hs]
  cases rest <;> rfl

end ViewBinding.Java
