/-!
# Annotations

The two annotations that bind a member of a class to views: `BindView` puts one view into a
field, `OnClick` makes a method the listener of any number of views.
-/

namespace ViewBinding

/-- The number of a view in its layout. -/
abbrev ViewId := Int32

namespace ViewId

/-- The number that stands for no view. -/
def absent : ViewId := -1

/-- The decimal digits of a view id. -/
def display (id : ViewId) : String :=
  toString id.toInt

end ViewId

/-- The annotations that the library knows. -/
inductive AnnotationKind where
  | bindView
  | onClick
  deriving DecidableEq, Repr

namespace AnnotationKind

/-- Both kinds, in the order in which a round is searched for them. -/
def all : List AnnotationKind := [bindView, onClick]

/-- The simple name of the annotation. -/
def name : AnnotationKind → String
  | bindView => "BindView"
  | onClick => "OnClick"

end AnnotationKind

/-- The two tables of an injector: views put into fields, views whose clicks are handled. -/
inductive BindingTable where
  | field
  | handler
  deriving DecidableEq, Repr

/-- The table in the words of a message. -/
def BindingTable.display : BindingTable → String
  | .field => "field"
  | .handler => "handler"

/-- The table that an annotation binds in. -/
def AnnotationKind.table : AnnotationKind → BindingTable
  | .bindView => .field
  | .onClick => .handler

/-- An annotation with the views that it names, in the order of the source. -/
inductive Annotation where
  | bindView (id : ViewId)
  | onClick (ids : List ViewId)
  deriving DecidableEq, Repr

namespace Annotation

/-- Which annotation it is. -/
def kind : Annotation → AnnotationKind
  | bindView _ => .bindView
  | onClick _ => .onClick

/-- The views that the annotation names. -/
def ids : Annotation → List ViewId
  | bindView id => [id]
  | onClick ids => ids

/-- The annotation as Java source. -/
def display : Annotation → String
  | bindView id => s!"@BindView({id.display})"
  | onClick ids => "@OnClick(\x7b" ++ ", ".intercalate (ids.map ViewId.display) ++ "\x7d)"

end Annotation

end ViewBinding
