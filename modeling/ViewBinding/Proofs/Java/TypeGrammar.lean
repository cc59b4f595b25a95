import Mathlib.Data.List.TakeWhile
import Mathlib.Logic.Relation
import ViewBinding.Proofs.Java.ClassTypes

/-!
# The grammar of declared types

A declared type is a base, which is a primitive or a dotted name, followed by any number of `[]`.
Blanks may stand around the whole and in front of each `[]`. The check takes the blanks around the
text off, then one `[]` after the other with the blanks in front of it, and looks at what is left.

* `IsTypeText`: the grammar.
* `isTypeBase_iff`: the bases are what the check accepts in the end.
* `elementType_of_isTypeText`: taking all `[]` off leaves the base.
* `exists_isTypeText_parts`: every text is what is left of it, with blanks and `[]` put around.
* `StripsTo`, `run_elementType`: the turns of the loop, and where they end.
* `checkType_accepts_grammar`: the check accepts the grammar, and its loop ends.
-/

namespace ViewBinding.Java

open Text

/-! ## The grammar -/

/-- Blanks, perhaps none. -/
def IsBlanks (cs : List Char) : Prop :=
  ∀ c ∈ cs, isBlank c = true

/-- A name: a start character and part characters, which make no reserved word. -/
inductive IsName : List Char → Prop
  | intro {c : Char} {cs : List Char} (hstart : isIdentifierStart c = true)
    (hparts : ∀ d ∈ cs, isIdentifierPart d = true)
    (hword : String.ofList (c :: cs) ∉ reservedWords) : IsName (c :: cs)

/-- The base of a type: one of the primitives, or names with dots between them. -/
inductive IsTypeBase : List Char → Prop
  | primitive {word : String} (h : word ∈ primitiveTypes) : IsTypeBase word.toList
  | named {names : List (List Char)} (hne : names ≠ []) (h : ∀ name ∈ names, IsName name) :
    IsTypeBase (joinWith '.' names)

/-- Any number of `[]`, with blanks in front of each. -/
inductive IsBrackets : List Char → Prop
  | none : IsBrackets []
  | more {groups blanks : List Char} (hgroups : IsBrackets groups) (hblanks : IsBlanks blanks) :
    IsBrackets (groups ++ blanks ++ ['[', ']'])

/-- A declared type: a base with its brackets, and blanks around. -/
inductive IsTypeText : List Char → Prop
  | intro {front base groups back : List Char} (hfront : IsBlanks front) (hbase : IsTypeBase base)
    (hgroups : IsBrackets groups) (hback : IsBlanks back) :
    IsTypeText (front ++ (base ++ groups) ++ back)

/-! ## Bases -/

theorem isName_iff {cs : List Char} : IsName cs ↔ IsIdentifier (String.ofList cs) := by
  rw [IsIdentifier, String.toList_ofList, isReserved, ← Bool.not_eq_true, List.contains_iff_mem]
  constructor
  · rintro ⟨hstart, hparts, hword⟩
    refine ⟨?_, hword⟩
    rw [hasIdentifierShape, hstart, Bool.true_and, List.all_eq_true]
    exact hparts
  · rintro ⟨hshape, hword⟩
    cases cs with
    | nil => cases hshape
    | cons c cs =>
      rw [hasIdentifierShape, Bool.and_eq_true, List.all_eq_true] at hshape
      exact ⟨hshape.1, hshape.2, hword⟩

/-- Names with dots between them are the legal dotted names. -/
theorem isQualifiedName_joinWith {names : List (List Char)} (hne : names ≠ [])
    (h : ∀ name ∈ names, IsName name) : IsQualifiedName (String.ofList (joinWith '.' names)) := by
  have hdot : ∀ name ∈ names, '.' ∉ name := fun name hname => by
    have hid := isName_iff.mp (h name hname)
    rw [← String.toList_ofList (l := name)]
    exact hid.not_mem isIdentifierPart_dot
  rw [isQualifiedName_iff, String.toList_ofList, segments_joinWith hne hdot]
  exact fun name hname => isName_iff.mp (h name hname)

/-- The bases are the primitives and the legal dotted names. -/
theorem isTypeBase_iff {type : String} :
    IsTypeBase type.toList ↔ isPrimitive type = true ∨ IsQualifiedName type := by
  constructor
  · intro h
    generalize hcs : type.toList = cs at h
    cases h with
    | @primitive word hword =>
      rw [String.toList_inj] at hcs
      exact .inl (List.contains_iff_mem.mpr (hcs ▸ hword))
    | named hne hnames =>
      refine .inr ?_
      rw [← String.ofList_toList (s := type), hcs]
      exact isQualifiedName_joinWith hne hnames
  · rintro (hprimitive | hname)
    · exact .primitive (List.contains_iff_mem.mp hprimitive)
    · rw [← joinWith_segments '.' type.toList]
      exact .named (segments_ne_nil _ _) fun piece hpiece =>
        isName_iff.mpr (isQualifiedName_iff.mp hname piece hpiece)

section

variable {base : List Char}

theorem IsTypeBase.isIdentifierPart (h : IsTypeBase base) {c : Char} (hc : c ∈ base) :
    c = '.' ∨ Java.isIdentifierPart c = true := by
  rw [← String.toList_ofList (l := base)] at h hc
  rcases isTypeBase_iff.mp h with hprimitive | hname
  · have hwords : ∀ word ∈ primitiveTypes, word.toList.all Java.isIdentifierPart = true := by decide
    have hparts := hwords _ (List.contains_iff_mem.mp hprimitive)
    exact .inr (List.all_eq_true.mp hparts c hc)
  · exact hname.isIdentifierPart hc

theorem IsTypeBase.ne_nil (h : IsTypeBase base) : base ≠ [] := by
  rintro rfl
  have hempty := (@isTypeBase_iff "").mp h
  revert hempty
  decide

/-- Neither blanks nor brackets are in a base. -/
theorem IsTypeBase.plain (h : IsTypeBase base) : ∀ c ∈ base, isBlank c = false ∧ c ≠ ']' := by
  intro c hc
  rcases h.isIdentifierPart hc with rfl | hpart
  · decide
  · constructor
    · by_contra hblank
      rw [Bool.not_eq_false] at hblank
      cases (isIdentifierPart_of_isBlank hblank).symm.trans hpart
    · rintro rfl
      revert hpart
      decide

end

/-! ## Taking brackets off -/

theorem reverse_trimEnd (cs : List Char) : (trimEnd cs).reverse = trimStart cs.reverse := by
  rw [trimEnd, List.reverse_reverse]

theorem trimStart_append {blanks cs : List Char} (hblanks : IsBlanks blanks)
    (hcs : ∀ c ∈ cs.head?, isBlank c = false) : trimStart (blanks ++ cs) = cs := by
  rw [trimStart, List.dropWhile_append_of_pos hblanks]
  cases cs with
  | nil => rfl
  | cons c cs => exact trimStart_eq_self (hcs c rfl)

theorem trimEnd_append {cs blanks : List Char} (hblanks : IsBlanks blanks)
    (hcs : ∀ c ∈ cs.getLast?, isBlank c = false) : trimEnd (cs ++ blanks) = cs := by
  rw [trimEnd, List.reverse_append, trimStart_append, List.reverse_reverse]
  · exact fun c hc => hblanks c (List.mem_reverse.mp hc)
  · rwa [List.head?_reverse]

theorem dropBracketsReversed_append (body : List Char) :
    dropBracketsReversed (body ++ ['[', ']']).reverse =
      dropBracketsReversed (trimEnd body).reverse := by
  rw [List.reverse_append, reverse_trimEnd]
  exact dropBracketsReversed.eq_1 body.reverse

section

variable {base groups : List Char}

/-- Blanks never end a base with its brackets. -/
theorem getLast?_append_brackets (hbase : IsTypeBase base) (hgroups : IsBrackets groups) :
    ∀ c ∈ (base ++ groups).getLast?, isBlank c = false := by
  intro c hc
  cases hgroups with
  | none =>
    rw [List.append_nil] at hc
    exact (hbase.plain c (List.mem_of_getLast? hc)).1
  | more hgroups hblanks =>
    rw [← List.append_assoc, List.getLast?_append] at hc
    obtain rfl : ']' = c := Option.some.inj hc
    decide

/-- All brackets of a base can be taken off, one after the other. -/
theorem dropBracketsReversed_of_isBrackets (hbase : IsTypeBase base) (hgroups : IsBrackets groups) :
    dropBracketsReversed (base ++ groups).reverse = base.reverse := by
  induction hgroups with
  | none =>
    rw [List.append_nil, dropBracketsReversed]
    intro rest hrest
    have hmem : ']' ∈ base := List.mem_reverse.mp (hrest ▸ List.mem_cons_self)
    exact (hbase.plain _ hmem).2 rfl
  | more hgroups hblanks ih =>
    rw [← List.append_assoc, ← List.append_assoc, dropBracketsReversed_append,
      trimEnd_append hblanks (getLast?_append_brackets hbase hgroups), ih]

end

/-- What is left of a text of the grammar is its base. -/
theorem elementType_of_isTypeText {type : String} (h : IsTypeText type.toList) :
    IsTypeBase (elementType type).toList := by
  generalize hcs : type.toList = cs at h
  obtain @⟨front, base, groups, back, hfront, hbase, hgroups, hback⟩ := h
  have hhead : ∀ c ∈ (base ++ groups ++ back).head?, isBlank c = false := by
    intro c hc
    obtain ⟨first, rest, rfl⟩ := List.exists_cons_of_ne_nil hbase.ne_nil
    obtain rfl : first = c := Option.some.inj hc
    exact (hbase.plain first List.mem_cons_self).1
  have htrim : trim type.toList = base ++ groups := by
    rw [hcs, trim, List.append_assoc, trimStart_append hfront hhead,
      trimEnd_append hback (getLast?_append_brackets hbase hgroups)]
  rw [elementType, String.toList_ofList, htrim, dropBracketsReversed_of_isBrackets hbase hgroups,
    List.reverse_reverse]
  exact hbase

/-! ## Putting them on again -/

theorem exists_trimStart_eq (cs : List Char) :
    ∃ blanks, IsBlanks blanks ∧ cs = blanks ++ trimStart cs :=
  ⟨cs.takeWhile isBlank, fun _ hc => List.mem_takeWhile_imp hc,
    List.takeWhile_append_dropWhile.symm⟩

theorem exists_trimEnd_eq (cs : List Char) :
    ∃ blanks, IsBlanks blanks ∧ cs = trimEnd cs ++ blanks := by
  obtain ⟨blanks, hblanks, heq⟩ := exists_trimStart_eq cs.reverse
  refine ⟨blanks.reverse, fun c hc => hblanks c (List.mem_reverse.mp hc), ?_⟩
  rw [trimEnd, ← List.reverse_append, ← heq, List.reverse_reverse]

/-- A text is what is left of it, with brackets behind. -/
theorem exists_brackets_eq (cs : List Char) :
    ∃ groups, IsBrackets groups ∧ cs.reverse = (dropBracketsReversed cs).reverse ++ groups := by
  induction cs using dropBracketsReversed.induct with
  | case1 rest ih =>
    obtain ⟨groups, hgroups, heq⟩ := ih
    obtain ⟨blanks, hblanks, htrim⟩ := exists_trimEnd_eq rest.reverse
    rw [trimEnd, List.reverse_reverse, heq] at htrim
    refine ⟨groups ++ blanks ++ ['[', ']'], .more hgroups hblanks, ?_⟩
    rw [dropBracketsReversed, List.reverse_cons, List.reverse_cons, htrim]
    simp only [List.append_assoc, List.cons_append, List.nil_append]
  | case2 cs hne =>
    refine ⟨[], .none, ?_⟩
    rw [List.append_nil, dropBracketsReversed]
    exact hne

/-- A text is what is left of it, with brackets behind and blanks around. -/
theorem exists_isTypeText_parts (type : String) :
    ∃ front groups back, IsBlanks front ∧ IsBrackets groups ∧ IsBlanks back ∧
      type.toList = front ++ ((elementType type).toList ++ groups) ++ back := by
  obtain ⟨front, hfront, hstart⟩ := exists_trimStart_eq type.toList
  obtain ⟨back, hback, hend⟩ := exists_trimEnd_eq (trimStart type.toList)
  obtain ⟨groups, hgroups, heq⟩ := exists_brackets_eq (trim type.toList).reverse
  rw [List.reverse_reverse] at heq
  refine ⟨front, groups, back, hfront, hgroups, hback, ?_⟩
  rw [elementType, String.toList_ofList, ← heq, List.append_assoc, trim, ← hend, ← hstart]

/-! ## The loop -/

/-- One turn of the loop: the text ends with `[]`, which is taken off with the blanks in front. -/
def StripsTo (cs rest : List Char) : Prop :=
  ∃ body, cs = body ++ ['[', ']'] ∧ rest = trimEnd body

/-- A turn makes the text shorter. -/
theorem StripsTo.length_lt {cs rest : List Char} (h : StripsTo cs rest) :
    rest.length < cs.length := by
  obtain ⟨body, rfl, rfl⟩ := h
  have hle := length_trimStart_le body.reverse
  rw [trimEnd, List.length_reverse, List.length_append]
  rw [List.length_reverse] at hle
  simp only [List.length_cons, List.length_nil]
  omega

/-- There is no endless run of turns. -/
theorem wellFounded_stripsTo : WellFounded fun rest cs => StripsTo cs rest :=
  Subrelation.wf StripsTo.length_lt (measure List.length).wf

/-- Turn by turn, the loop comes to what is left of the text, and there it stops. -/
theorem run_dropBracketsReversed (cs : List Char) :
    Relation.ReflTransGen StripsTo cs.reverse (dropBracketsReversed cs).reverse ∧
      ∀ rest, ¬ StripsTo (dropBracketsReversed cs).reverse rest := by
  induction cs using dropBracketsReversed.induct with
  | case1 rest ih =>
    obtain ⟨hrun, hstop⟩ := ih
    rw [dropBracketsReversed]
    refine ⟨.head ⟨rest.reverse, ?_, ?_⟩ hrun, hstop⟩
    · rw [List.reverse_cons, List.reverse_cons, List.append_assoc, List.singleton_append]
    · rw [trimEnd, List.reverse_reverse]
  | case2 cs hne =>
    rw [dropBracketsReversed]
    · refine ⟨.refl, ?_⟩
      rintro rest ⟨body, hbody, -⟩
      refine hne body.reverse ?_
      rw [← List.reverse_reverse cs, hbody, List.reverse_append]
      rfl
    · exact hne

theorem run_elementType (type : String) :
    Relation.ReflTransGen StripsTo (trim type.toList) (elementType type).toList ∧
      ∀ rest, ¬ StripsTo (elementType type).toList rest := by
  have hrun := run_dropBracketsReversed (trim type.toList).reverse
  rwa [List.reverse_reverse, ← String.toList_ofList (l := (dropBracketsReversed _).reverse)] at hrun

/-- The check of a declared type accepts exactly the texts of the grammar. Its loop takes one `[]`
off after the other: no text allows an endless run of turns, and the run from any text ends with
what the check looks at. -/
theorem checkType_accepts_grammar (type : String) :
    (checkType type = .ok () ↔ IsTypeText type.toList) ∧
      Relation.ReflTransGen StripsTo (trim type.toList) (elementType type).toList ∧
      (∀ rest, ¬ StripsTo (elementType type).toList rest) ∧
      WellFounded fun rest cs => StripsTo cs rest := by
  obtain ⟨hrun, hstop⟩ := run_elementType type
  refine ⟨?_, hrun, hstop, wellFounded_stripsTo⟩
  rw [checkType_eq_ok_iff, ← isTypeBase_iff]
  constructor
  · intro hbase
    obtain ⟨front, groups, back, hfront, hgroups, hback, heq⟩ := exists_isTypeText_parts type
    rw [heq]
    exact .intro hfront hbase hgroups hback
  · exact elementType_of_isTypeText

end ViewBinding.Java
