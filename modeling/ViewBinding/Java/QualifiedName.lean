import ViewBinding.Java.Identifier
import ViewBinding.Text.Bytes
import ViewBinding.Text.Segments
import ViewBinding.Text.Uppercase

/-!
# Qualified names

Dotted names of classes and packages: their check, and the package that the naming convention
gives to a class.

* `checkQualifiedName_eq_ok_iff`: a name passes exactly if each of its segments is an identifier.
* `packageOf`: the package of a class, cut off in front of the first capitalised segment.
-/

namespace ViewBinding.Java

open ViewBinding.Text

/-- The segments of a dotted name. -/
def nameSegments (name : String) : List String :=
  (segments '.' name.toList).map String.ofList

/-- Why a text is no qualified name. -/
inductive NameFault where
  | empty
  | segment (name : String) (fault : IdentifierFault)
  deriving DecidableEq, Repr

/-- The wording of a fault. -/
def NameFault.message : NameFault → String
  | .empty => "qualified name is empty"
  | .segment name fault => s!"in `{name}`: {fault.message}"

/-- The fault of the first segment that is no identifier. -/
def firstFault : List String → Option IdentifierFault
  | [] => none
  | segment :: rest =>
    match checkIdentifier segment with
    | .error fault => some fault
    | .ok () => firstFault rest

/-- Accepts the dotted names made of identifiers. -/
def checkQualifiedName (name : String) : Except NameFault Unit :=
  if name.isEmpty then .error .empty
  else
    match firstFault (nameSegments name) with
    | some fault => .error (.segment name fault)
    | none => .ok ()

/-- A dotted name each of whose segments is a legal simple name. -/
def IsQualifiedName (name : String) : Prop :=
  ∀ segment ∈ nameSegments name, IsIdentifier segment

instance (name : String) : Decidable (IsQualifiedName name) :=
  inferInstanceAs (Decidable (∀ _ ∈ _, _))

theorem firstFault_eq_none_iff {segments : List String} :
    firstFault segments = none ↔ ∀ segment ∈ segments, IsIdentifier segment := by
  induction segments with
  | nil => simp [firstFault]
  | cons segment rest ih =>
    cases h : checkIdentifier segment with
    | error fault =>
      have : ¬ IsIdentifier segment := fun hi => by
        rw [checkIdentifier_eq_ok_iff.mpr hi] at h
        cases h
      simp [firstFault, h, this]
    | ok u =>
      have : IsIdentifier segment := checkIdentifier_eq_ok_iff.mp h
      simp [firstFault, h, this, ih]

theorem checkQualifiedName_eq_ok_iff {name : String} :
    checkQualifiedName name = .ok () ↔ IsQualifiedName name := by
  unfold checkQualifiedName
  split
  · next h =>
    rw [String.isEmpty_iff] at h
    subst h
    simp [IsQualifiedName, nameSegments, segments, IsIdentifier, hasIdentifierShape]
  · cases h : firstFault (nameSegments name) with
    | none => simpa [IsQualifiedName] using firstFault_eq_none_iff.mp h
    | some fault =>
      have : ¬ IsQualifiedName name := fun hq => by
        rw [firstFault_eq_none_iff.mpr hq] at h
        cases h
      simp [this]

/-! ## Packages -/

/-- A segment that begins with a capital. -/
def isCapitalised : List Char → Bool
  | [] => false
  | c :: _ => isUppercase c

/-- Where the package of a class ends, in bytes: in front of the dot before the first capitalised
segment. `passed` are the bytes of the segments before the given ones, each with its dot. -/
def packageEnd? (passed : Nat) : List (List Char) → Option Nat
  | [] => none
  | piece :: rest =>
    if isCapitalised piece then some (passed - 1)
    else packageEnd? (passed + byteLength piece + 1) rest

/-- The package of a class by the naming convention: what stands before the first capitalised
segment, or before the last segment where none is capitalised. -/
def packageOf (name : String) : String :=
  match packageEnd? 0 (segments '.' name.toList) with
  | some stop => String.ofList ((sliceTo? stop name.toList).getD [])
  | none =>
    match splitLast? '.' name.toList with
    | some (package, _) => String.ofList package
    | none => ""

end ViewBinding.Java
