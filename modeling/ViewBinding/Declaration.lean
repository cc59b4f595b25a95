import ViewBinding.Annotation
import ViewBinding.HostClass

/-!
# Declarations

What a compilation declares: fields, methods and the other kinds of declaration that an
annotation can stand on, each with the class around it.

* `Declaration.annotationOf?_eq_some`: the annotation found has the kind asked for.
-/

namespace ViewBinding

/-- The kinds of declaration. -/
inductive DeclarationKind where
  | classType
  | constructor
  | field
  | localVariable
  | method
  | parameter
  deriving DecidableEq, Repr

namespace DeclarationKind

/-- All kinds, in the order of their names. -/
def all : List DeclarationKind :=
  [.classType, .constructor, .field, .localVariable, .method, .parameter]

/-- The kind as a key of a manifest. -/
def key : DeclarationKind → String
  | .classType => "class"
  | .constructor => "constructor"
  | .field => "field"
  | .localVariable => "local_variable"
  | .method => "method"
  | .parameter => "parameter"

/-- The kind in the words of a message. -/
def display : DeclarationKind → String
  | .localVariable => "local variable"
  | kind => kind.key

/-- Kinds whose parameter list is part of their identity. -/
def isCallable : DeclarationKind → Bool
  | .method | .constructor => true
  | _ => false

end DeclarationKind

/-- The modifiers that matter here. -/
inductive Modifier where
  | final
  | privateAccess
  | protectedAccess
  | publicAccess
  | static
  deriving DecidableEq, Repr

namespace Modifier

/-- All modifiers, in the order of their names. -/
def all : List Modifier :=
  [.final, .privateAccess, .protectedAccess, .publicAccess, .static]

/-- The modifier as Java source. -/
def key : Modifier → String
  | .final => "final"
  | .privateAccess => "private"
  | .protectedAccess => "protected"
  | .publicAccess => "public"
  | .static => "static"

/-- The modifiers given, each once, in the order of their names. -/
def setOf (given : List Modifier) : List Modifier :=
  all.filter (given.contains ·)

theorem mem_setOf {m : Modifier} {given : List Modifier} : m ∈ setOf given ↔ m ∈ given := by
  cases m <;> simp [setOf, all]

end Modifier

/-- A place in the source, as far as it is known. -/
structure Location where
  file : Option String := none
  line : Option UInt32 := none
  deriving DecidableEq, Repr

/-- The place as messages begin with it. -/
def Location.display (location : Location) : String :=
  match location.file, location.line with
  | some file, some line => s!"{file}:{line.toNat}"
  | some file, none => file
  | none, some line => s!"line {line.toNat}"
  | none, none => "<unknown>"

/-- One declaration of a compilation. Of a method, `type` is the result type. -/
structure Declaration where
  kind : DeclarationKind
  name : String
  type : String := ""
  params : List String := []
  modifiers : List Modifier := []
  owner : Option HostClass := none
  location : Option Location := none
  annotations : List Annotation := []
  deriving DecidableEq, Repr

namespace Declaration

/-- The first annotation of a kind. -/
def annotationOf? (d : Declaration) (kind : AnnotationKind) : Option Annotation :=
  d.annotations.find? (·.kind = kind)

/-- The name of the class around it, or a stand-in. -/
def ownerName (d : Declaration) : String :=
  match d.owner with
  | some host => host.name
  | none => "<none>"

/-- The identity of a declaration in its compilation: `Owner#name`, with the parameter types
where they tell namesakes apart. -/
def symbolKey (d : Declaration) : String :=
  let key := d.ownerName ++ "#" ++ d.name
  if d.kind.isCallable then key ++ "(" ++ ", ".intercalate d.params ++ ")" else key

/-- The declaration in the words of a message. -/
def display (d : Declaration) : String :=
  s!"{d.kind.display} `{d.symbolKey}`"

/-- Where the declaration stands: its own place, or the file of its class. -/
def place (d : Declaration) : Option Location :=
  match d.location with
  | some location => some location
  | none => (d.owner.bind (·.source)).map fun file => { file := some file }

theorem annotationOf?_eq_some {d : Declaration} {kind : AnnotationKind} {a : Annotation}
    (h : d.annotationOf? kind = some a) : a.kind = kind ∧ a ∈ d.annotations := by
  have hk := List.find?_some h
  exact ⟨by simpa using hk, List.mem_of_find?_eq_some h⟩

end Declaration

end ViewBinding
