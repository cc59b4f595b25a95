import ViewBinding.Code.Step
import ViewBinding.Injector.Basic
import ViewBinding.Settings
import ViewBinding.SourceVersion

/-!
# The source of an injector

An injector is a class with one method, which puts each bound view into its field and registers
each handler at its view. Views come in ascending order, the field of a view before its handler.

* `source?_eq_ok`: a source exists exactly for an injector without conflicts whose class has a
  legal name, and it is what `classSteps` render to.
-/

namespace ViewBinding

open Code

/-- The class of every view. -/
def viewType : String := "android.view.View"

/-- The interface of a click listener. -/
def listenerType : String := "android.view.View.OnClickListener"

/-- Why an injector has no source. -/
inductive SourceError where
  | conflicted (owner : String) (count : Nat)
  | invalidName (name : String) (fault : Java.IdentifierFault)
  deriving DecidableEq, Repr

/-- The wording of an error. -/
def SourceError.message : SourceError → String
  | conflicted owner count => s!"`{owner}` has {count} unresolved view id conflict(s)"
  | invalidName name fault => s!"generated class name `{name}` is invalid: {fault.message}"

namespace Injector

/-- The expression that finds a view. -/
def lookupExpr (finder : String) (id : ViewId) : String :=
  s!"{finder}.findViewById(source, {id.display})"

/-- The statement that puts a view into a field. -/
def fieldStatement (finder : String) (id : ViewId) (d : Declaration) : String :=
  let view := lookupExpr finder id
  s!"host.{d.name} = ({d.type}) {view};"

/-- The call of a handler. The clicked view is passed on to one that takes it, cast where the
parameter is narrower than a view. -/
def handlerCall (d : Declaration) : String :=
  match d.params with
  | [] => s!"host.{d.name}()"
  | type :: _ =>
    if type = viewType then s!"host.{d.name}(view)" else s!"host.{d.name}(({type}) view)"

/-- The statement that registers a handler, as a lambda expression or as an anonymous class. -/
def handlerStep (finder : String) (version : SourceVersion) (id : ViewId) (d : Declaration) :
    Step :=
  let view := lookupExpr finder id
  let call := handlerCall d
  if version.hasLambdas then .line s!"{view}.setOnClickListener(view -> {call});"
  else
    .block s!"{view}.setOnClickListener(new {listenerType}()" ");" [
      .line "@Override",
      .block s!"public void onClick({viewType} view)" "" [.line s!"{call};"]]

/-- The statements of one view. -/
def viewSteps (i : Injector) (finder : String) (version : SourceVersion) (id : ViewId) :
    List Step :=
  ((i.field? id).map fun d => Step.line (fieldStatement finder id d)).toList ++
    ((i.handler? id).map fun d => handlerStep finder version id d).toList

/-- The statements of all views. -/
def statementSteps (i : Injector) (finder : String) (version : SourceVersion) : List Step :=
  i.ids.flatMap (i.viewSteps finder version)

/-- The comment above the source. -/
def headerSteps (i : Injector) (settings : Settings) : List Step :=
  if settings.header then
    [.comment s!"Generated by viewinject from {i.host.name}. Do not modify."]
  else []

/-- The package declaration and an empty line, if there is a package. -/
def packageSteps (i : Injector) : List Step :=
  if i.host.package.isEmpty then []
  else [.line s!"package {i.host.package};", .blankLine]

/-- The whole source as steps of writing. -/
def classSteps (i : Injector) (settings : Settings) (version : SourceVersion) : List Step :=
  let name := i.host.injectorName settings.classSuffix
  let owner := i.host.name
  let inject := settings.runtimeType "ViewInject"
  let finder := settings.runtimeType "ViewFinder"
  i.headerSteps settings ++ i.packageSteps ++ [
    .block s!"public class {name} implements {inject}<{owner}>" "" [
      .line "@Override",
      .block s!"public void inject(final {owner} host, Object source)" ""
        (i.statementSteps finder version)]]

/-- The indentation unit of the settings. -/
def indentUnit (settings : Settings) : String :=
  String.ofList (List.replicate settings.indent ' ')

/-- The source, or why there is none. -/
def source? (i : Injector) (settings : Settings) (version : SourceVersion) :
    Except SourceError String :=
  if i.hasConflicts then .error (.conflicted i.host.name i.conflicts.length)
  else
    let name := i.host.injectorName settings.classSuffix
    match Java.checkIdentifier name with
    | .error fault => .error (.invalidName name fault)
    | .ok () => .ok (Step.render (indentUnit settings) (i.classSteps settings version))

theorem source?_eq_ok {i : Injector} {settings : Settings} {version : SourceVersion}
    {text : String} :
    i.source? settings version = .ok text ↔
      i.conflicts = [] ∧ Java.IsIdentifier (i.host.injectorName settings.classSuffix) ∧
        text = Step.render (indentUnit settings) (i.classSteps settings version) := by
  rw [← hasConflicts_eq_false_iff, ← Java.checkIdentifier_eq_ok_iff, source?]
  cases hc : i.hasConflicts with
  | true => simp
  | false =>
    cases hn : Java.checkIdentifier (i.host.injectorName settings.classSuffix) with
    | error fault => simp [hn]
    | ok => simp [hn, eq_comm]

end Injector

end ViewBinding
