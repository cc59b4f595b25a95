import ViewBinding.Text.Alphabetic
import ViewBinding.Text.Numeric

/-!
# Java identifiers

The characters of an identifier, the words that Java reserves, and the check of a simple name.

* `checkIdentifier_eq_ok_iff`: a name passes exactly if it is a start character followed by part
  characters and no reserved word.
-/

namespace ViewBinding.Java

open ViewBinding.Text

/-- The keywords of Java and its three literals, none of which can be a name. -/
def reservedWords : List String := [
  "abstract", "assert", "boolean", "break", "byte", "case", "catch", "char", "class", "const",
  "continue", "default", "do", "double", "else", "enum", "extends", "final", "finally", "float",
  "for", "goto", "if", "implements", "import", "instanceof", "int", "interface", "long", "native",
  "new", "package", "private", "protected", "public", "return", "short", "static", "strictfp",
  "super", "switch", "synchronized", "this", "throw", "throws", "transient", "try", "void",
  "volatile", "while", "_", "true", "false", "null"]

/-- A word that cannot be a name. -/
def isReserved (word : String) : Bool :=
  reservedWords.contains word

/-- A character that may begin an identifier. -/
def isIdentifierStart (c : Char) : Bool :=
  isAlphabetic c || c == '_' || c == '$'

/-- A character that may stand inside an identifier. -/
def isIdentifierPart (c : Char) : Bool :=
  isAlphabetic c || isNumeric c || c == '_' || c == '$'

theorem isIdentifierPart_of_start {c : Char} (h : isIdentifierStart c = true) :
    isIdentifierPart c = true := by
  simp only [isIdentifierStart, isIdentifierPart, Bool.or_eq_true] at h ⊢
  grind

/-- The characters of an identifier, whether or not the word is reserved. -/
def hasIdentifierShape : List Char → Bool
  | [] => false
  | c :: cs => isIdentifierStart c && cs.all isIdentifierPart

/-- Why a text is no identifier. -/
inductive IdentifierFault where
  | empty
  | malformed (text : String)
  | reserved (word : String)
  deriving DecidableEq, Repr

/-- The wording of a fault. -/
def IdentifierFault.message : IdentifierFault → String
  | .empty => "identifier is empty"
  | .malformed text => s!"`{text}` is not a valid identifier"
  | .reserved word => s!"the word `{word}` is reserved"

/-- Accepts the legal simple names. -/
def checkIdentifier (text : String) : Except IdentifierFault Unit :=
  if text.isEmpty then .error .empty
  else if !hasIdentifierShape text.toList then .error (.malformed text)
  else if isReserved text then .error (.reserved text)
  else .ok ()

/-- A legal simple name. -/
def IsIdentifier (text : String) : Prop :=
  hasIdentifierShape text.toList = true ∧ isReserved text = false

instance (text : String) : Decidable (IsIdentifier text) :=
  inferInstanceAs (Decidable (_ ∧ _))

theorem checkIdentifier_eq_ok_iff {text : String} :
    checkIdentifier text = .ok () ↔ IsIdentifier text := by
  unfold checkIdentifier IsIdentifier
  split
  · next h =>
    rw [String.isEmpty_iff] at h
    subst h
    simp [hasIdentifierShape]
  · split
    · next h => simp at h; simp [h]
    · next h =>
      simp only [Bool.not_eq_true, Bool.not_eq_false'] at h
      split
      · next hr => simp [hr]
      · next hr => simp at hr; simp [h, hr]

end ViewBinding.Java
