import ViewBinding.Declaration
import ViewBinding.Java.TypeName

/-!
# Placement of annotations

An annotation binds only on a declaration that the injector can reach: a field or a method of a
class, neither private nor static, that really carries the annotation with proper view ids. The
rules are tried in one order, and the first that is broken is the reason given.

* `Declaration.placeAs_eq_ok`: an accepted declaration belongs to a class and carries the
  annotation.
-/

namespace ViewBinding

/-- What a declaration is to the injector. -/
inductive Role where
  | field
  | method
  | other (kind : DeclarationKind)
  deriving DecidableEq, Repr

/-- The role that a kind of declaration has. -/
def DeclarationKind.role : DeclarationKind → Role
  | .field => .field
  | .method => .method
  | kind => .other kind

/-- The role in short. -/
def Role.display : Role → String
  | .field => "field"
  | .method => "method"
  | .other kind => s!"other:{kind.display}"

/-- Why an annotation cannot bind where it stands. -/
inductive Misplacement where
  | nonField (kind : DeclarationKind) (name : String)
  | nonMethod (kind : DeclarationKind) (name : String)
  | noEnclosingClass (kind : DeclarationKind) (name : String)
  | inaccessible (mark : AnnotationKind) (kind : DeclarationKind) (name : String)
      (modifier : Modifier)
  | handlerArity (name : String) (count : Nat)
  | handlerParameter (name type : String)
  | unmarked (mark : AnnotationKind) (name : String)
  | missingIdentifier (mark : AnnotationKind) (name : String)
  deriving DecidableEq, Repr

/-- The wording of a reason. -/
def Misplacement.message : Misplacement → String
  | nonField kind name => s!"@BindView marker used on non-field element: {kind.display} `{name}`"
  | nonMethod kind name => s!"@OnClick marker used on non-method element: {kind.display} `{name}`"
  | noEnclosingClass kind name => s!"{kind.display} `{name}` has no enclosing class"
  | inaccessible mark kind name modifier =>
    s!"@{mark.name} {kind.display} `{name}` must not be {modifier.key}"
  | handlerArity name count =>
    s!"@OnClick method `{name}` takes {count} parameters; expected none or the clicked view"
  | handlerParameter name type =>
    s!"@OnClick method `{name}` takes `{type}`; expected the clicked view or a subclass of it"
  | unmarked mark name =>
    s!"`{name}` was reported for @{mark.name} but does not carry it"
  | missingIdentifier mark name =>
    s!"@{mark.name} marker on `{name}` carries no view identifier"

namespace Placement

/-- The table that the annotation binds in, if the kind of declaration fits it. -/
def checkRole (mark : AnnotationKind) (d : Declaration) :
    Except Misplacement BindingTable :=
  match mark, d.kind.role with
  | .bindView, .field => .ok .field
  | .onClick, .method => .ok .handler
  | .bindView, _ => .error (.nonField d.kind d.name)
  | .onClick, _ => .error (.nonMethod d.kind d.name)

/-- The class that the declaration is a member of. -/
def checkOwner (d : Declaration) : Except Misplacement HostClass :=
  match d.owner with
  | some owner => .ok owner
  | none => .error (.noEnclosingClass d.kind d.name)

/-- The injector, a class of its own, can reach the member of an instance. -/
def checkAccess (mark : AnnotationKind) (d : Declaration) : Except Misplacement Unit :=
  if d.modifiers.contains .privateAccess then
    .error (.inaccessible mark d.kind d.name .privateAccess)
  else if d.modifiers.contains .static then
    .error (.inaccessible mark d.kind d.name .static)
  else .ok ()

/-- A method takes at most one parameter. -/
def checkArity (table : BindingTable) (d : Declaration) : Except Misplacement Unit :=
  if table = .handler && d.params.length > 1 then .error (.handlerArity d.name d.params.length)
  else .ok ()

/-- The first parameter, of a method or of anything else, is a class that a view can be cast to. -/
def checkParameter (d : Declaration) : Except Misplacement Unit :=
  match d.params with
  | [] => .ok ()
  | type :: _ => if Java.isClassType type then .ok () else .error (.handlerParameter d.name type)

/-- The annotation is there and names views. -/
def checkIds (mark : AnnotationKind) (d : Declaration) : Except Misplacement Annotation :=
  match d.annotationOf? mark with
  | none => .error (.unmarked mark d.name)
  | some found =>
    if found.ids.isEmpty || found.ids.contains ViewId.absent then
      .error (.missingIdentifier mark d.name)
    else .ok found

end Placement

/-- An annotation in its place: the table it binds in, the class whose member is bound, and the
views. -/
structure Placed where
  table : BindingTable
  owner : HostClass
  ids : List ViewId
  deriving DecidableEq, Repr

/-- The place of a declaration that was reported for an annotation, or the first reason why it has
none. -/
def Declaration.placeAs (d : Declaration) (mark : AnnotationKind) :
    Except Misplacement Placed := do
  let table ← Placement.checkRole mark d
  let owner ← Placement.checkOwner d
  Placement.checkAccess mark d
  Placement.checkArity table d
  Placement.checkParameter d
  let found ← Placement.checkIds mark d
  return { table, owner, ids := found.ids }

theorem Declaration.placeAs_eq_ok {d : Declaration} {mark : AnnotationKind} {p : Placed}
    (h : d.placeAs mark = .ok p) :
    d.owner = some p.owner ∧ (d.annotationOf? mark).map (·.ids) = some p.ids := by
  simp only [placeAs, bind, Except.bind, pure, Except.pure] at h
  cases hr : Placement.checkRole mark d with
  | error e => simp [hr] at h
  | ok table =>
  cases ho : Placement.checkOwner d with
  | error e => simp [hr, ho] at h
  | ok owner =>
  cases ha : Placement.checkAccess mark d with
  | error e => simp [hr, ho, ha] at h
  | ok =>
  cases hn : Placement.checkArity table d with
  | error e => simp [hr, ho, ha, hn] at h
  | ok =>
  cases hp : Placement.checkParameter d with
  | error e => simp [hr, ho, ha, hn, hp] at h
  | ok =>
  cases hi : Placement.checkIds mark d with
  | error e => simp [hr, ho, ha, hn, hp, hi] at h
  | ok found =>
    simp only [hr, ho, ha, hn, hp, hi, Except.ok.injEq] at h
    subst h
    unfold Placement.checkOwner at ho
    unfold Placement.checkIds at hi
    constructor <;> grind

end ViewBinding
