import ViewBinding.Declaration
import ViewBinding.SourceVersion

/-!
# Manifests

A manifest lists the classes of a compilation with the members that may carry annotations. It
stands in for the symbol table of a compiler.

* `Manifest.mem_declarations`: the declarations of a manifest are those of its classes.
-/

namespace ViewBinding

/-- A member of a class. A view to be bound and views to be listened to are its annotations. -/
structure MemberEntry where
  kind : DeclarationKind
  name : String
  type : String := ""
  params : List String := []
  modifiers : List Modifier := []
  line : Option UInt32 := none
  bindView : Option ViewId := none
  onClick : Option (List ViewId) := none
  deriving DecidableEq, Repr

/-- A class with its members. Without a package, the naming convention gives it one. -/
structure ClassEntry where
  name : String
  package : Option String := none
  source : Option String := none
  members : List MemberEntry := []
  deriving DecidableEq, Repr

/-- The classes of a compilation and the version of the language it is for. -/
structure Manifest where
  sourceVersion : Option UInt32 := none
  classes : List ClassEntry := []
  deriving DecidableEq, Repr

namespace MemberEntry

/-- The annotations of the member. -/
def annotations (m : MemberEntry) : List Annotation :=
  (m.bindView.map Annotation.bindView).toList ++ (m.onClick.map Annotation.onClick).toList

/-- The member as a declaration of a class. A place is known only if the line is. -/
def declaration (m : MemberEntry) (owner : HostClass) (source : Option String) : Declaration where
  kind := m.kind
  name := m.name
  type := m.type
  params := m.params
  modifiers := Modifier.setOf m.modifiers
  owner := some owner
  location := m.line.map fun line => { file := source, line := some line }
  annotations := m.annotations

end MemberEntry

namespace ClassEntry

/-- The class as a host of injection. -/
def host (c : ClassEntry) : HostClass :=
  match c.package with
  | some package => { name := c.name, package, source := c.source }
  | none => { HostClass.ofName c.name with source := c.source }

/-- The members as declarations. -/
def declarations (c : ClassEntry) : List Declaration :=
  c.members.map fun m => m.declaration c.host c.source

end ClassEntry

namespace Manifest

/-- The version of the language. -/
def version (m : Manifest) : SourceVersion :=
  match m.sourceVersion with
  | some release => ⟨release⟩
  | none => {}

/-- The declarations of all classes, in the order of the manifest. -/
def declarations (m : Manifest) : List Declaration :=
  m.classes.flatMap ClassEntry.declarations

theorem mem_declarations {m : Manifest} {d : Declaration} :
    d ∈ m.declarations ↔
      ∃ c ∈ m.classes, ∃ e ∈ c.members, d = e.declaration c.host c.source := by
  simp [declarations, ClassEntry.declarations, eq_comm]

end Manifest

end ViewBinding
