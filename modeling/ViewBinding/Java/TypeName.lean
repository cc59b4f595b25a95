import ViewBinding.Java.QualifiedName
import ViewBinding.Text.Blank

/-!
# Declared types

A declared type is a primitive or a class name, followed by any number of `[]`. Blanks may stand
around it and before each `[]`.

* `checkType_eq_ok_iff`: a declared type is a primitive or a qualified name within blanks and `[]`.
* `isClassType_iff`: a class type is a qualified name and no array.
-/

namespace ViewBinding.Java

open ViewBinding.Text

/-- The primitive types. -/
def primitiveTypes : List String :=
  ["boolean", "byte", "char", "double", "float", "int", "long", "short"]

/-- One of the eight primitive types. -/
def isPrimitive (type : String) : Bool :=
  primitiveTypes.contains type

/-- A reversed type without its closing `[]`s and the blanks before each. -/
def dropBracketsReversed : List Char → List Char
  | ']' :: '[' :: rest => dropBracketsReversed (trimStart rest)
  | cs => cs
termination_by cs => cs.length
decreasing_by
  have := length_trimStart_le rest
  simp only [List.length_cons]
  omega

/-- What is left of a type without surrounding blanks and closing `[]`s. -/
def elementType (type : String) : String :=
  String.ofList (dropBracketsReversed (trim type.toList).reverse).reverse

/-- Why a text is no declared type. -/
structure TypeFault where
  type : String
  fault : NameFault
  deriving DecidableEq, Repr

/-- The wording of a fault. -/
def TypeFault.message (fault : TypeFault) : String :=
  s!"type `{fault.type}`: {fault.fault.message}"

/-- Accepts the declared types. -/
def checkType (type : String) : Except TypeFault Unit :=
  if isPrimitive (elementType type) then .ok ()
  else
    match checkQualifiedName (elementType type) with
    | .error fault => .error ⟨type, fault⟩
    | .ok () => .ok ()

theorem checkType_eq_ok_iff {type : String} :
    checkType type = .ok () ↔
      isPrimitive (elementType type) = true ∨ IsQualifiedName (elementType type) := by
  rw [← checkQualifiedName_eq_ok_iff, checkType]
  cases hp : isPrimitive (elementType type) with
  | true => simp
  | false => cases hq : checkQualifiedName (elementType type) <;> simp

/-- The text ends, blanks aside, with a closing bracket. -/
def endsWithBracket (type : String) : Bool :=
  (trimEnd type.toList).getLast? == some ']'

/-- A class type that is no array: what a view can be cast to. -/
def isClassType (type : String) : Bool :=
  -- The name is checked as it was written: blanks around it are not taken away here.
  !endsWithBracket type && (checkQualifiedName type).isOk

theorem isClassType_iff {type : String} :
    isClassType type = true ↔ endsWithBracket type = false ∧ IsQualifiedName type := by
  rw [← checkQualifiedName_eq_ok_iff, isClassType]
  cases h : checkQualifiedName type <;> simp [Except.isOk, Except.toBool]

end ViewBinding.Java
