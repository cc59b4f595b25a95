import ViewBinding.Java.QualifiedName
import ViewBinding.Proofs.Text.Segments

/-!
# The package of a class

The segments of a name are passed one after the other, counting their bytes, until one of them is
capitalised; the count then is a place in the name, and what stands in front of it is the package.
In terms of segments: the package holds those before the first capitalised one, or all but the last.

* `packageEnd?_append`, `packageEnd?_eq_none_iff`: the place that the count comes to.
* `isSome_sliceTo?_packageEnd?`: the name can be cut there.
* `isPackage_packageOf`: the segments of the package.
* `packageOf_cases`: the package is empty, or the name goes on after it with a dot.
-/

namespace ViewBinding.Java

open Text

variable {name : String} {before after : List (List Char)} {piece : List Char}

/-! ## Counting bytes -/

/-- What has been counted behind some segments: their bytes, and one for the dot behind each. -/
def bytesPassed : List (List Char) → Nat
  | [] => 0
  | piece :: rest => byteLength piece + 1 + bytesPassed rest

/-- The dot behind the last segment is the one byte too many. -/
theorem byteLength_joinWith (pieces : List (List Char)) :
    byteLength (joinWith '.' pieces) = bytesPassed pieces - 1 := by
  have hdot : '.'.utf8Size = 1 := by decide
  induction pieces with
  | nil => rfl
  | cons piece rest ih =>
    cases rest with
    | nil => simp [joinWith, bytesPassed]
    | cons next rest =>
      rw [joinWith, byteLength_append, byteLength_cons, ih, hdot]
      simp only [bytesPassed]
      omega

/-- Plain segments are passed, and the count is taken at the first capitalised one. -/
theorem packageEnd?_append (hplain : ∀ p ∈ before, isCapitalised p = false)
    (hcap : isCapitalised piece = true) (passed : Nat) :
    packageEnd? passed (before ++ piece :: after) = some (passed + bytesPassed before - 1) := by
  induction before generalizing passed with
  | nil => simp [packageEnd?, hcap, bytesPassed]
  | cons first before ih =>
    obtain ⟨hfirst, hbefore⟩ := List.forall_mem_cons.mp hplain
    rw [List.cons_append, packageEnd?, if_neg (by simp [hfirst]), ih hbefore, bytesPassed]
    congr 2
    omega

/-- There is no such place exactly if no segment is capitalised. -/
theorem packageEnd?_eq_none_iff {passed : Nat} {pieces : List (List Char)} :
    packageEnd? passed pieces = none ↔ ∀ p ∈ pieces, isCapitalised p = false := by
  induction pieces generalizing passed with
  | nil => simp [packageEnd?]
  | cons first rest ih =>
    rw [packageEnd?, List.forall_mem_cons]
    cases hfirst : isCapitalised first with
    | true => simp
    | false => simp [ih]

/-- Segments are plain up to the first capitalised one, or all of them are plain. -/
theorem exists_capitalised_or_plain (pieces : List (List Char)) :
    (∃ before piece after, pieces = before ++ piece :: after ∧
      (∀ p ∈ before, isCapitalised p = false) ∧ isCapitalised piece = true) ∨
    ∀ p ∈ pieces, isCapitalised p = false := by
  cases hfirst : pieces.find? isCapitalised with
  | some piece =>
    obtain ⟨hcap, before, after, hsplit, hplain⟩ := List.find?_eq_some_iff_append.mp hfirst
    exact .inl ⟨before, piece, after, hsplit, fun p hp => by simpa using hplain p hp, hcap⟩
  | none => exact .inr (by simpa using List.find?_eq_none.mp hfirst)

/-! ## The segments of the package -/

/-- The first capitalised segment of a name is found, and what stands in front of it can be cut
off. -/
theorem slice_of_capitalised (hsplit : segments '.' name.toList = before ++ piece :: after)
    (hplain : ∀ p ∈ before, isCapitalised p = false) (hcap : isCapitalised piece = true) :
    packageEnd? 0 (segments '.' name.toList) = some (bytesPassed before - 1) ∧
      sliceTo? (bytesPassed before - 1) name.toList = some (joinWith '.' before) := by
  constructor
  · rw [hsplit, packageEnd?_append hplain hcap, Nat.zero_add]
  · refine sliceTo?_eq_some_iff.mpr ⟨?_, byteLength_joinWith before⟩
    rw [← joinWith_segments '.' name.toList, hsplit]
    exact joinWith_isPrefix (List.prefix_append before _)

/-- The count is always a place at which the name can be cut, never one within a character. -/
theorem isSome_sliceTo?_packageEnd? {stop : Nat}
    (h : packageEnd? 0 (segments '.' name.toList) = some stop) :
    (sliceTo? stop name.toList).isSome = true := by
  rcases exists_capitalised_or_plain (segments '.' name.toList) with
    ⟨before, piece, after, hsplit, hplain, hcap⟩ | hplain
  · obtain ⟨hend, hcut⟩ := slice_of_capitalised hsplit hplain hcap
    obtain rfl : bytesPassed before - 1 = stop := Option.some.inj (hend.symm.trans h)
    exact Option.isSome_of_eq_some hcut
  · rw [packageEnd?_eq_none_iff.mpr hplain] at h
    cases h

/-- The package ends in front of the first capitalised segment. -/
theorem packageOf_of_capitalised (hsplit : segments '.' name.toList = before ++ piece :: after)
    (hplain : ∀ p ∈ before, isCapitalised p = false) (hcap : isCapitalised piece = true) :
    (packageOf name).toList = joinWith '.' before := by
  obtain ⟨hend, hcut⟩ := slice_of_capitalised hsplit hplain hcap
  simp only [packageOf, hend, hcut, Option.getD_some, String.toList_ofList]

/-- Where no segment is capitalised, the package ends in front of the last one. -/
theorem packageOf_of_plain (hplain : ∀ p ∈ segments '.' name.toList, isCapitalised p = false) :
    (packageOf name).toList = joinWith '.' (segments '.' name.toList).dropLast := by
  have hlast := List.dropLast_concat_getLast (segments_ne_nil '.' name.toList)
  simp only [packageOf, packageEnd?_eq_none_iff.mpr hplain, splitLast?_of_segments hlast.symm]
  by_cases hone : (segments '.' name.toList).dropLast = []
  · simp [hone, joinWith]
  · simp [hone]

/-- The package of a class, said by segments: those before the first capitalised one, or all but the
last where none is capitalised. -/
structure IsPackage (name package : String) : Prop where
  capitalised : ∀ before piece after, segments '.' name.toList = before ++ piece :: after →
    (∀ p ∈ before, isCapitalised p = false) → isCapitalised piece = true →
      package.toList = joinWith '.' before
  plain : (∀ p ∈ segments '.' name.toList, isCapitalised p = false) →
    package.toList = joinWith '.' (segments '.' name.toList).dropLast

theorem isPackage_packageOf (name : String) : IsPackage name (packageOf name) where
  capitalised _ _ _ := packageOf_of_capitalised
  plain := packageOf_of_plain

/-- The name falls into the segments of the package and at least one more. -/
theorem IsPackage.exists_append {package : String} (h : IsPackage name package) :
    ∃ before after, segments '.' name.toList = before ++ after ∧ after ≠ [] ∧
      package.toList = joinWith '.' before := by
  rcases exists_capitalised_or_plain (segments '.' name.toList) with
    ⟨before, piece, after, hsplit, hplain, hcap⟩ | hplain
  · exact ⟨before, piece :: after, hsplit, List.cons_ne_nil _ _,
      h.capitalised before piece after hsplit hplain hcap⟩
  · have hlast := List.dropLast_concat_getLast (segments_ne_nil '.' name.toList)
    exact ⟨_, _, hlast.symm, List.cons_ne_nil _ _, h.plain hplain⟩

/-- The package that the naming convention gives to a class is empty, or the name of the class goes
on after it. -/
theorem packageOf_cases (name : String) :
    packageOf name = "" ∨ ∃ rest, name.toList = (packageOf name).toList ++ '.' :: rest := by
  obtain ⟨before, after, hsplit, hafter, hpackage⟩ := (isPackage_packageOf name).exists_append
  by_cases hbefore : before = []
  · rw [hbefore] at hpackage
    exact .inl (String.toList_inj.mp hpackage)
  · refine .inr ⟨joinWith '.' after, ?_⟩
    rw [hpackage, ← joinWith_append hbefore hafter, ← hsplit, joinWith_segments]

end ViewBinding.Java
