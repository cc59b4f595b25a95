import ViewBinding.Injector.Source
import ViewBinding.Proofs.Code.Lines

/-!
# The text of an injector

An injector is a frame that depends on its class and on the settings, around statements that each
stand for one bound view.

* `Statement.lines`, `injectorLines`: the text of statements and of a whole injector, line by line.
* `Injector.statements`: the statements of an injector, by ascending view.
* `Injector.render_classSteps`: the source of an injector has exactly these lines.
-/

namespace ViewBinding

open Code Text

/-- A view is put into a field, or its clicks are sent to a method. -/
inductive Statement where
  | assign (name type : String) (id : ViewId)
  | listen (name : String) (params : List String) (id : ViewId)
  deriving DecidableEq, Repr

namespace Statement

/-- The expression that finds a view. -/
def find (runtime : String) (id : ViewId) : String :=
  runtime ++ ".ViewFinder.findViewById(source, " ++ toString id.toInt ++ ")"

/-- The call of a method. It is given the clicked view if it takes one, as the type it asks for. -/
def call (name : String) : List String → String
  | [] => "host." ++ name ++ "()"
  | type :: _ =>
    if type = "android.view.View" then "host." ++ name ++ "(view)"
    else "host." ++ name ++ "((" ++ type ++ ") view)"

/-- The lines of a statement inside the method of an injector. -/
def lines (runtime : String) (version : SourceVersion) : Statement → List Line
  | assign name type id =>
    [⟨2, "host." ++ name ++ " = (" ++ type ++ ") " ++ find runtime id ++ ";"⟩]
  | listen name params id =>
    if version.hasLambdas then
      [⟨2, find runtime id ++ ".setOnClickListener(view -> " ++ call name params ++ ");"⟩]
    else [
      ⟨2, find runtime id ++
        ".setOnClickListener(new android.view.View.OnClickListener() \x7b"⟩,
      ⟨3, "@Override"⟩,
      ⟨3, "public void onClick(android.view.View view) \x7b"⟩,
      ⟨4, call name params ++ ";"⟩,
      ⟨3, "\x7d"⟩,
      ⟨2, "\x7d);"⟩]

end Statement

/-- The lines of the injector of a class with the given statements. -/
def injectorLines (settings : Settings) (version : SourceVersion) (host : HostClass)
    (statements : List Statement) : List Line :=
  (if settings.header then
    [⟨0, "// Generated by viewinject from " ++ host.name ++ ". Do not modify."⟩] else []) ++
  (if host.package.isEmpty then [] else [⟨0, "package " ++ host.package ++ ";"⟩, ⟨0, ""⟩]) ++
  [⟨0, "public class " ++ host.injectorName settings.classSuffix ++ " implements " ++
      settings.runtimePackage ++ ".ViewInject<" ++ host.name ++ "> \x7b"⟩,
    ⟨1, "@Override"⟩,
    ⟨1, "public void inject(final " ++ host.name ++ " host, Object source) \x7b"⟩] ++
  statements.flatMap (·.lines settings.runtimePackage version) ++ [⟨1, "\x7d"⟩, ⟨0, "\x7d"⟩]

theorem isBlankText_append (a b : String) :
    isBlankText (a ++ b) = (isBlankText a && isBlankText b) := by
  simp [isBlankText]

namespace Injector

/-- The statements of an injector: by ascending view, the field of a view before its listener. -/
def statements (i : Injector) : List Statement :=
  i.ids.flatMap fun id =>
    ((i.field? id).map fun d => .assign d.name d.type id).toList ++
      ((i.handler? id).map fun d => .listen d.name d.params id).toList

variable {i : Injector} {settings : Settings} {version : SourceVersion}

theorem lookupExpr_eq (id : ViewId) :
    lookupExpr (settings.runtimeType "ViewFinder") id =
      Statement.find settings.runtimePackage id := by
  have hname : ".ViewFinder.findViewById(source, " =
      "." ++ "ViewFinder" ++ ".findViewById(source, " := rfl
  show settings.runtimePackage ++ "." ++ "ViewFinder" ++ ".findViewById(source, " ++
    toString id.toInt ++ ")" = _
  simp only [Statement.find, hname, String.append_assoc]

theorem handlerCall_eq (d : Declaration) : handlerCall d = Statement.call d.name d.params := by
  unfold handlerCall Statement.call
  cases d.params with
  | nil => rfl
  | cons type rest =>
    by_cases h : type = "android.view.View"
    · subst h
      rfl
    · have hne : type ≠ viewType := h
      simp only [h, hne, if_false]
      rfl

theorem lines_fieldStatement (id : ViewId) (d : Declaration) :
    Step.lines 2 (.line (fieldStatement (settings.runtimeType "ViewFinder") id d)) =
      (Statement.assign d.name d.type id).lines settings.runtimePackage version := by
  rw [Step.lines, fieldStatement, lookupExpr_eq]
  rfl

theorem lines_handlerStep (id : ViewId) (d : Declaration) :
    Step.lines 2 (handlerStep (settings.runtimeType "ViewFinder") version id d) =
      (Statement.listen d.name d.params id).lines settings.runtimePackage version := by
  rw [handlerStep, lookupExpr_eq, handlerCall_eq, Statement.lines]
  split
  · rfl
  · have hopen : ".setOnClickListener(new android.view.View.OnClickListener() \x7b" =
        ".setOnClickListener(new " ++ listenerType ++ "()" ++ " \x7b" := rfl
    simp only [Step.lines, Step.linesAll, hopen, String.append_assoc]
    rfl

/-- The statements of an injector are written line by line. -/
theorem linesAll_statementSteps :
    Step.linesAll 2 (i.statementSteps (settings.runtimeType "ViewFinder") version) =
      i.statements.flatMap (·.lines settings.runtimePackage version) := by
  rw [statementSteps, statements, Step.linesAll_eq_flatMap, List.flatMap_assoc, List.flatMap_assoc]
  refine congrArg (fun f => i.ids.flatMap f) (funext fun id => ?_)
  rw [viewSteps, List.flatMap_append, List.flatMap_append]
  congr 1
  · cases i.field? id with
    | none => rfl
    | some d =>
      simp only [Option.map_some, Option.toList_some, List.flatMap_singleton]
      exact lines_fieldStatement id d
  · cases i.handler? id with
    | none => rfl
    | some d =>
      simp only [Option.map_some, Option.toList_some, List.flatMap_singleton]
      exact lines_handlerStep id d

theorem linesAll_headerSteps :
    Step.linesAll 0 (i.headerSteps settings) = if settings.header then
      [⟨0, "// Generated by viewinject from " ++ i.host.name ++ ". Do not modify."⟩] else [] := by
  have hslashes : "// Generated by viewinject from " = "// " ++ "Generated by viewinject from " :=
    rfl
  unfold headerSteps
  split
  · simp only [Step.linesAll, Step.lines, hslashes, String.append_assoc]
    rfl
  · rfl

theorem linesAll_packageSteps :
    Step.linesAll 0 i.packageSteps = if i.host.package.isEmpty then [] else
      [⟨0, "package " ++ i.host.package ++ ";"⟩, ⟨0, ""⟩] := by
  unfold packageSteps
  split <;> rfl

/-- A class with one overriding method frames the lines of that method. -/
theorem lines_class (header method : String) (body : List Step) :
    Step.lines 0 (.block header "" [.line "@Override", .block method "" body]) =
      [⟨0, header ++ " \x7b"⟩, ⟨1, "@Override"⟩, ⟨1, method ++ " \x7b"⟩] ++
        Step.linesAll 2 body ++ [⟨1, "\x7d"⟩, ⟨0, "\x7d"⟩] := by
  simp [Step.lines, Step.linesAll]

theorem classHeader_eq (name owner : String) {inject : String}
    (h : inject = settings.runtimeType "ViewInject") :
    s!"public class {name} implements {inject}<{owner}>" ++ " \x7b" =
      "public class " ++ name ++ " implements " ++ settings.runtimePackage ++ ".ViewInject<" ++
        owner ++ "> \x7b" := by
  have hname : ".ViewInject<" = "." ++ "ViewInject" ++ "<" := rfl
  have hend : "> \x7b" = ">" ++ " \x7b" := rfl
  subst h
  show "public class " ++ name ++ " implements " ++
    (settings.runtimePackage ++ "." ++ "ViewInject") ++ "<" ++ owner ++ ">" ++ " \x7b" = _
  simp only [hname, hend, String.append_assoc]

theorem methodHeader_eq (owner : String) :
    s!"public void inject(final {owner} host, Object source)" ++ " \x7b" =
      "public void inject(final " ++ owner ++ " host, Object source) \x7b" := by
  have hend : " host, Object source) \x7b" = " host, Object source)" ++ " \x7b" := rfl
  show "public void inject(final " ++ owner ++ " host, Object source)" ++ " \x7b" = _
  simp only [hend, String.append_assoc]

/-- The whole class is written line by line. -/
theorem linesAll_classSteps :
    Step.linesAll 0 (i.classSteps settings version) =
      injectorLines settings version i.host i.statements := by
  simp only [classSteps]
  rw [Step.linesAll_append, Step.linesAll_append, linesAll_headerSteps, linesAll_packageSteps,
    Step.linesAll, Step.linesAll, lines_class, linesAll_statementSteps,
    classHeader_eq _ _ rfl, methodHeader_eq, List.append_nil, injectorLines]
  simp only [List.append_assoc]

/-! ## No line is blank -/

theorem writesLines_handlerStep (finder : String) (id : ViewId) (d : Declaration) :
    (handlerStep finder version id d).WritesLines := by
  unfold handlerStep
  split
  · have hview : isBlankText ".setOnClickListener(view -> " = false := rfl
    show isBlankText (lookupExpr finder id ++ ".setOnClickListener(view -> " ++ handlerCall d ++
      ");") = false
    simp only [isBlankText_append, hview, Bool.and_false, Bool.false_and]
  · have hnew : isBlankText ".setOnClickListener(new " = false := rfl
    have hend : isBlankText ";" = false := rfl
    refine ⟨?_, rfl, ⟨rfl, ?_, trivial⟩, trivial⟩
    · show isBlankText (lookupExpr finder id ++ ".setOnClickListener(new " ++ listenerType ++
        "()") = false
      simp only [isBlankText_append, hnew, Bool.and_false, Bool.false_and]
    · show isBlankText (handlerCall d ++ ";") = false
      rw [isBlankText_append, hend, Bool.and_false]

theorem writeLines_statementSteps (finder : String) :
    Step.WriteLines (i.statementSteps finder version) := by
  rw [Step.writeLines_iff]
  intro step hstep
  obtain ⟨id, -, hstep⟩ := List.mem_flatMap.mp hstep
  rw [viewSteps, List.mem_append, Option.mem_toList, Option.mem_toList, Option.map_eq_some_iff,
    Option.map_eq_some_iff] at hstep
  rcases hstep with ⟨d, -, rfl⟩ | ⟨d, -, rfl⟩
  · have hhost : isBlankText "host." = false := rfl
    show isBlankText ("host." ++ d.name ++ " = (" ++ d.type ++ ") " ++ lookupExpr finder id ++
      ";") = false
    simp only [isBlankText_append, hhost, Bool.false_and]
  · exact writesLines_handlerStep finder id d

theorem writeLines_classSteps : Step.WriteLines (i.classSteps settings version) := by
  have hclass : isBlankText "public class " = false := rfl
  have hmethod : isBlankText "public void inject(final " = false := rfl
  have hpackage : isBlankText "package " = false := rfl
  simp only [classSteps]
  rw [Step.writeLines_append, Step.writeLines_append]
  refine ⟨⟨?_, ?_⟩, ⟨?_, rfl, ⟨?_, writeLines_statementSteps _⟩, trivial⟩, trivial⟩
  · unfold headerSteps
    split <;> simp [Step.WriteLines, Step.WritesLines]
  · unfold packageSteps
    split
    · trivial
    · refine ⟨?_, trivial, trivial⟩
      show isBlankText ("package " ++ i.host.package ++ ";") = false
      simp only [isBlankText_append, hpackage, Bool.false_and]
  · show isBlankText ("public class " ++ i.host.injectorName settings.classSuffix ++
      " implements " ++ settings.runtimeType "ViewInject" ++ "<" ++ i.host.name ++ ">") = false
    simp only [isBlankText_append, hclass, Bool.false_and]
  · show isBlankText ("public void inject(final " ++ i.host.name ++ " host, Object source)") = false
    simp only [isBlankText_append, hmethod, Bool.false_and]

/-- The source of an injector has the lines of its class and its statements. -/
theorem render_classSteps :
    Step.render (indentUnit settings) (i.classSteps settings version) =
      Line.printAll (indentUnit settings) (injectorLines settings version i.host i.statements) := by
  rw [Step.render_eq _ writeLines_classSteps, linesAll_classSteps]

end Injector

end ViewBinding
