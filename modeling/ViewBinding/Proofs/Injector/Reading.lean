import ViewBinding.Proofs.Injector.Structure
import ViewBinding.Proofs.Text.Cutting

/-!
# Reading an injector back

The source of an injector can be read back, given the settings and the version it was made for. Each
name and each type in it ends where a character follows that it cannot hold, and the two kinds of
statement part at the end of the name that they begin with. So sources with the same text stand for
the same class and have the same statements.

* `Statement.append_inj`: one statement, in front of any text.
* `Statement.flatMap_lines_inj`: all statements.
* `injectorLines_inj`: the whole source.
-/

namespace ViewBinding

open Code Java Text

namespace Code.Line

variable {unit s t : String} {l l' : Line}

theorem print_ne_empty : l.print unit ≠ "" := by
  intro h
  have hend := (String.append_eq_empty_iff.mp h).2
  exact absurd hend (by decide)

/-- Lines at one level end where the next line begins, if their texts hold no line feed. -/
theorem print_append_inj (heq : l.print unit ++ s = l'.print unit ++ t) (h : OneLine l.text)
    (h' : OneLine l'.text) (hlevel : l.level = l'.level) : l.text = l'.text ∧ s = t := by
  simp only [print, hlevel, String.append_assoc, String.append_right_inj] at heq
  obtain ⟨htext, hrest⟩ := append_inj_of_mark '\n' h h' rfl rfl heq
  exact ⟨htext, (String.append_right_inj _).mp hrest⟩

end Code.Line

namespace Statement

variable {unit runtime : String} {version : SourceVersion} {s t : String}

/-- The handler takes no more than the view that its call can give it. -/
def IsCallable : Statement → Prop
  | assign .. => True
  | listen _ params _ => params.length ≤ 1

/-! ## Calls -/

/-- The arguments of a call, in brackets. -/
def arguments : List String → String
  | [] => "()"
  | type :: _ => if type = "android.view.View" then "(view)" else "((" ++ (type ++ ") view)")

theorem call_eq (name : String) (params : List String) :
    call name params = "host." ++ (name ++ arguments params) := by
  have hopen : "host." ++ name ++ "((" = "host." ++ (name ++ "((") := String.append_assoc ..
  cases params with
  | nil => rw [call, arguments, String.append_assoc]
  | cons type rest =>
    rw [call, arguments]
    by_cases hview : type = "android.view.View"
    · rw [if_pos hview, if_pos hview, String.append_assoc]
    · rw [if_neg hview, if_neg hview]
      simp only [String.append_assoc]

theorem arguments_cases (params : List String) :
    params = [] ∧ arguments params = "()" ∨
      params.head? = some "android.view.View" ∧ arguments params = "(view)" ∨
      ∃ type ∈ params.head?, arguments params = "((" ++ (type ++ ") view)") := by
  cases params with
  | nil => exact .inl ⟨rfl, rfl⟩
  | cons type rest =>
    by_cases hview : type = "android.view.View"
    · exact .inr (.inl ⟨congrArg some hview, by rw [arguments, if_pos hview]⟩)
    · exact .inr (.inr ⟨type, rfl, by rw [arguments, if_neg hview]⟩)

theorem head?_arguments (params : List String) : (arguments params).toList.head? = some '(' := by
  rcases arguments_cases params with ⟨-, h⟩ | ⟨-, h⟩ | ⟨type, -, h⟩ <;> rw [h] <;> simp

/-- The arguments of a call tell what the method takes, if it takes one view at most. -/
theorem arguments_inj {params params' : List String} (hlen : params.length ≤ 1)
    (hlen' : params'.length ≤ 1) (h : ∀ type ∈ params.head?, IsQualifiedName type)
    (h' : ∀ type ∈ params'.head?, IsQualifiedName type)
    (heq : arguments params ++ s = arguments params' ++ t) : params = params' ∧ s = t := by
  have hsame : params.head? = params'.head? ∧ s = t := by
    rcases arguments_cases params with ⟨hp, ha⟩ | ⟨hp, ha⟩ | ⟨type, hp, ha⟩ <;>
      rcases arguments_cases params' with ⟨hp', ha'⟩ | ⟨hp', ha'⟩ | ⟨type', hp', ha'⟩ <;>
      rw [ha, ha'] at heq
    case inl.inl => exact ⟨by rw [hp, hp'], (String.append_right_inj _).mp heq⟩
    case inr.inl.inr.inl => exact ⟨hp.trans hp'.symm, (String.append_right_inj _).mp heq⟩
    case inr.inr.inr.inr =>
      simp only [String.append_assoc, String.append_right_inj] at heq
      obtain ⟨htype, hrest⟩ := append_inj_of_mark ')'
        ((h type hp).not_mem (by decide) (by decide))
        ((h' type' hp').not_mem (by decide) (by decide)) rfl rfl heq
      refine ⟨?_, (String.append_right_inj _).mp hrest⟩
      rw [Option.mem_def.mp hp, Option.mem_def.mp hp', htype]
    all_goals exact absurd (congrArg String.toList heq) (by simp)
  refine ⟨?_, hsame.2⟩
  match params, params', hlen, hlen', hsame.1 with
  | [], [], _, _, _ => rfl
  | [type], [_], _, _, hhead => rw [Option.some.inj hhead]

/-! ## Statements -/

/-- The number of a view ends at the bracket after it. -/
theorem id_inj {id id' : ViewId}
    (heq : toString id.toInt ++ (")" ++ s) = toString id'.toInt ++ (")" ++ t)) :
    id = id' ∧ s = t := by
  have hmark : ∀ n : Int, ')' ∉ (toString n).toList := fun n hmem => by
    rcases mem_toString hmem with h | h <;> cases h
  obtain ⟨hid, hrest⟩ := append_inj_of_mark ')' (hmark _) (hmark _) rfl rfl heq
  exact ⟨Int32.toInt_inj.mp (toString_inj hid), (String.append_right_inj _).mp hrest⟩

theorem assign_append_inj {name name' type type' : String} {id id' : ViewId}
    (h : (assign name type id).Legal) (h' : (assign name' type' id').Legal)
    (heq : Line.printAll unit ((assign name type id).lines runtime version) ++ s =
      Line.printAll unit ((assign name' type' id').lines runtime version) ++ t) :
    assign name type id = assign name' type' id' ∧ s = t := by
  have hmark {type : String} (htype : checkType type = .ok ()) : ')' ∉ type.toList := fun hmem => by
    rcases mem_of_checkType htype hmem with h | h | h | h | h <;> revert h <;> decide
  simp only [lines, Line.printAll_singleton, Line.print, find, String.append_assoc,
    String.append_right_inj] at heq
  obtain ⟨rfl, hrest⟩ := append_inj_of_mark ' ' (h.1.not_mem (by decide))
    (h'.1.not_mem (by decide)) rfl rfl heq
  rw [String.append_right_inj] at hrest
  obtain ⟨rfl, hview⟩ := append_inj_of_mark ')' (hmark h.2) (hmark h'.2) rfl rfl hrest
  simp only [String.append_right_inj] at hview
  obtain ⟨rfl, hend⟩ := id_inj hview
  simp only [String.append_right_inj] at hend
  exact ⟨rfl, hend⟩

/-- A listener begins with the view and ends with the call. What stands between and behind them
depends on the version only. -/
theorem exists_printAll_listen (unit runtime : String) (version : SourceVersion) :
    ∃ opening closing : String, ∀ (name : String) (params : List String) (id : ViewId) (s : String),
      Line.printAll unit ((listen name params id).lines runtime version) ++ s =
        Line.indentation unit 2 ++ (runtime ++ (".ViewFinder.findViewById(source, " ++
          (toString id.toInt ++ (")" ++ (opening ++ ("host." ++ (name ++
            (arguments params ++ (closing ++ s))))))))) := by
  by_cases hversion : version.hasLambdas = true
  · refine ⟨".setOnClickListener(view -> ", ");\n", fun name params id s => ?_⟩
    have hclose : ");\n" = ");" ++ "\n" := rfl
    simp only [lines, if_pos hversion, Line.printAll_singleton, Line.print, find, call_eq, hclose,
      String.append_assoc]
  · refine ⟨".setOnClickListener(new android.view.View.OnClickListener() \x7b\n" ++
      Line.printAll unit [⟨3, "@Override"⟩,
        ⟨3, "public void onClick(android.view.View view) \x7b"⟩] ++ Line.indentation unit 4,
      ";\n" ++ Line.printAll unit [⟨3, "\x7d"⟩, ⟨2, "\x7d);"⟩], fun name params id s => ?_⟩
    have hopen : ".setOnClickListener(new android.view.View.OnClickListener() \x7b\n" =
      ".setOnClickListener(new android.view.View.OnClickListener() \x7b" ++ "\n" := rfl
    have hclose : ";\n" = ";" ++ "\n" := rfl
    have hnil : Line.printAll unit [] = "" := rfl
    simp only [lines, if_neg hversion, Line.printAll_cons, hnil, Line.print, find, call_eq, hopen,
      hclose, String.append_assoc, String.empty_append]

theorem listen_append_inj {name name' : String} {params params' : List String} {id id' : ViewId}
    (h : (listen name params id).Legal) (h' : (listen name' params' id').Legal)
    (hcall : (listen name params id).IsCallable) (hcall' : (listen name' params' id').IsCallable)
    (heq : Line.printAll unit ((listen name params id).lines runtime version) ++ s =
      Line.printAll unit ((listen name' params' id').lines runtime version) ++ t) :
    listen name params id = listen name' params' id' ∧ s = t := by
  obtain ⟨opening, closing, hprint⟩ := exists_printAll_listen unit runtime version
  simp only [hprint, String.append_right_inj] at heq
  obtain ⟨rfl, hmethod⟩ := id_inj heq
  simp only [String.append_right_inj] at hmethod
  obtain ⟨rfl, hparams⟩ := append_inj_of_mark '(' (h.1.not_mem (by decide))
    (h'.1.not_mem (by decide)) (head?_arguments params) (head?_arguments params') hmethod
  obtain ⟨rfl, hend⟩ := arguments_inj hcall hcall' h.2 h'.2 hparams
  exact ⟨rfl, (String.append_right_inj _).mp hend⟩

/-- The character may stand in a name with dots. -/
def isDottedPart (c : Char) : Bool :=
  c = '.' || isIdentifierPart c

/-- A field and a listener part behind the name that they begin with. -/
theorem assign_ne_listen {name name' type : String} {params : List String} {id id' : ViewId}
    (h : IsIdentifier name) (hruntime : IsQualifiedName runtime) :
    Line.printAll unit ((assign name type id).lines runtime version) ++ s ≠
      Line.printAll unit ((listen name' params id').lines runtime version) ++ t := by
  intro heq
  obtain ⟨opening, closing, hprint⟩ := exists_printAll_listen unit runtime version
  have hcut : ".ViewFinder.findViewById(source, " = ".ViewFinder.findViewById" ++ "(source, " := rfl
  rw [hprint] at heq
  simp only [lines, Line.printAll_singleton, Line.print, find, hcut, String.append_assoc,
    String.append_right_inj] at heq
  obtain ⟨more, more', hnames⟩ : ∃ more more', "host." ++ name ++ (" = (" ++ more) =
      runtime ++ ".ViewFinder.findViewById" ++ ("(source, " ++ more') :=
    ⟨_, _, by simpa only [String.append_assoc] using heq⟩
  have hhost : "host.".toList.all isDottedPart = true := by decide
  have hfinder : ".ViewFinder.findViewById".toList.all isDottedPart = true := by decide
  have hname : ∀ c ∈ ("host." ++ name).toList, isDottedPart c = true := by
    intro c hc
    rw [String.toList_append, List.mem_append] at hc
    rcases hc with hc | hc
    · exact List.all_eq_true.mp hhost c hc
    · rw [isDottedPart, Bool.or_eq_true]
      exact .inr (h.isIdentifierPart hc)
  have hview : ∀ c ∈ (runtime ++ ".ViewFinder.findViewById").toList, isDottedPart c = true := by
    intro c hc
    rw [String.toList_append, List.mem_append] at hc
    rcases hc with hc | hc
    · rw [isDottedPart, Bool.or_eq_true, decide_eq_true_eq]
      exact hruntime.isIdentifierPart hc
    · exact List.all_eq_true.mp hfinder c hc
  -- Both names run to the first character that no name holds: a blank here, a bracket there.
  have hblank : isDottedPart ' ' = false := by decide
  have hbracket : isDottedPart '(' = false := by decide
  obtain ⟨-, hrest⟩ := append_inj_of_stop hname hview (by simp [hblank]) (by simp [hbracket]) hnames
  exact absurd (congrArg String.toList hrest) (by simp)

/-- The lines of a statement tell it, and where they end. -/
theorem lines_append_inj (hruntime : IsQualifiedName runtime) {statement statement' : Statement}
    (h : statement.Legal) (h' : statement'.Legal) (hcall : statement.IsCallable)
    (hcall' : statement'.IsCallable)
    (heq : Line.printAll unit (statement.lines runtime version) ++ s =
      Line.printAll unit (statement'.lines runtime version) ++ t) :
    statement = statement' ∧ s = t := by
  cases statement with
  | assign name type id =>
    cases statement' with
    | assign name' type' id' => exact assign_append_inj h h' heq
    | listen name' params' id' => exact absurd heq (assign_ne_listen h.1 hruntime)
  | listen name params id =>
    cases statement' with
    | assign name' type' id' => exact absurd heq.symm (assign_ne_listen h'.1 hruntime)
    | listen name' params' id' => exact listen_append_inj h h' hcall hcall' heq

theorem printAll_lines_ne_empty (statement : Statement) :
    Line.printAll unit (statement.lines runtime version) ++ s ≠ "" := by
  have hlines : ∃ l ls, statement.lines runtime version = l :: ls := by
    cases statement with
    | assign name type id => exact ⟨_, _, rfl⟩
    | listen name params id =>
      rw [lines]
      split <;> exact ⟨_, _, rfl⟩
  obtain ⟨l, ls, hlines⟩ := hlines
  intro hempty
  rw [hlines, Line.printAll_cons, String.append_assoc] at hempty
  exact Line.print_ne_empty (String.append_eq_empty_iff.mp hempty).1

/-- The lines of several statements tell all of them. -/
theorem flatMap_lines_inj (hruntime : IsQualifiedName runtime)
    {statements statements' : List Statement}
    (h : ∀ x ∈ statements, x.Legal ∧ x.IsCallable) (h' : ∀ x ∈ statements', x.Legal ∧ x.IsCallable)
    (heq : Line.printAll unit (statements.flatMap (·.lines runtime version)) =
      Line.printAll unit (statements'.flatMap (·.lines runtime version))) :
    statements = statements' := by
  induction statements generalizing statements' with
  | nil =>
    cases statements' with
    | nil => rfl
    | cons statement' rest' =>
      rw [List.flatMap_cons, Line.printAll_append] at heq
      exact absurd heq.symm (printAll_lines_ne_empty statement')
  | cons statement rest ih =>
    cases statements' with
    | nil =>
      rw [List.flatMap_cons, Line.printAll_append] at heq
      exact absurd heq (printAll_lines_ne_empty statement)
    | cons statement' rest' =>
      obtain ⟨⟨hlegal, hcall⟩, hrest⟩ := List.forall_mem_cons.mp h
      obtain ⟨⟨hlegal', hcall'⟩, hrest'⟩ := List.forall_mem_cons.mp h'
      rw [List.flatMap_cons, List.flatMap_cons, Line.printAll_append, Line.printAll_append] at heq
      obtain ⟨rfl, hmore⟩ := lines_append_inj hruntime hlegal hlegal' hcall hcall' heq
      rw [ih hrest hrest' hmore]

end Statement

/-! ## The frame -/

theorem Java.IsQualifiedName.oneLine {name : String} (h : IsQualifiedName name) : OneLine name :=
  h.not_mem (by decide) (by decide)

theorem Java.IsIdentifier.oneLine {name : String} (h : IsIdentifier name) : OneLine name :=
  h.not_mem (by decide)

/-- The comment above a source. -/
def headerLine (host : HostClass) : Line :=
  ⟨0, "// Generated by viewinject from " ++ host.name ++ ". Do not modify."⟩

/-- The package declaration. -/
def packageLine (host : HostClass) : Line :=
  ⟨0, "package " ++ host.package ++ ";"⟩

/-- The line that opens the class. -/
def classLine (settings : Settings) (host : HostClass) : Line :=
  ⟨0, "public class " ++ host.injectorName settings.classSuffix ++ " implements " ++
    settings.runtimePackage ++ ".ViewInject<" ++ host.name ++ "> \x7b"⟩

/-- The line that opens the method. -/
def methodLine (host : HostClass) : Line :=
  ⟨1, "public void inject(final " ++ host.name ++ " host, Object source) \x7b"⟩

theorem injectorLines_eq (settings : Settings) (version : SourceVersion) (host : HostClass)
    (statements : List Statement) :
    injectorLines settings version host statements =
      (if settings.header then [headerLine host] else []) ++
        ((if host.package.isEmpty then [] else [packageLine host, ⟨0, ""⟩]) ++
          (classLine settings host :: ⟨1, "@Override"⟩ :: methodLine host ::
            (statements.flatMap (·.lines settings.runtimePackage version) ++
              [⟨1, "\x7d"⟩, ⟨0, "\x7d"⟩]))) := by
  simp only [injectorLines, List.append_assoc]
  rfl

section

variable {settings : Settings} {host host' : HostClass} {version : SourceVersion} {unit : String}
  {statements statements' : List Statement} {s t : String}

theorem LegalFrame.oneLine_headerLine (h : LegalFrame settings host) :
    OneLine (headerLine host).text := by
  have hfrom : OneLine "// Generated by viewinject from " := by decide
  have hmodify : OneLine ". Do not modify." := by decide
  exact (hfrom.append h.owner.oneLine).append hmodify

theorem LegalFrame.oneLine_packageLine (h : LegalFrame settings host)
    (hne : ¬ host.package.isEmpty = true) : OneLine (packageLine host).text := by
  have hkeyword : OneLine "package " := by decide
  have hend : OneLine ";" := by decide
  exact (hkeyword.append (h.isQualifiedName_package hne).oneLine).append hend

theorem LegalFrame.oneLine_classLine (h : LegalFrame settings host) :
    OneLine (classLine settings host).text := by
  have hkeyword : OneLine "public class " := by decide
  have himplements : OneLine " implements " := by decide
  have hopen : OneLine ".ViewInject<" := by decide
  have hclose : OneLine "> \x7b" := by decide
  exact (((((hkeyword.append h.injector.oneLine).append himplements).append
    h.runtime.oneLine).append hopen).append h.owner.oneLine).append hclose

theorem LegalFrame.oneLine_methodLine (h : LegalFrame settings host) :
    OneLine (methodLine host).text := by
  have hinject : OneLine "public void inject(final " := by decide
  have hsource : OneLine " host, Object source) \x7b" := by decide
  exact (hinject.append h.owner.oneLine).append hsource

theorem packageLine_ne_classLine : (packageLine host).text ≠ (classLine settings host').text := by
  intro h
  have hlist := congrArg String.toList h
  simp [packageLine, classLine] at hlist

/-- The package declaration is told from a class that comes without one. -/
theorem package_append_inj (h : LegalFrame settings host) (h' : LegalFrame settings host')
    (heq : Line.printAll unit (if host.package.isEmpty then [] else [packageLine host, ⟨0, ""⟩]) ++
        ((classLine settings host).print unit ++ s) =
      Line.printAll unit (if host'.package.isEmpty then [] else [packageLine host', ⟨0, ""⟩]) ++
        ((classLine settings host').print unit ++ t)) :
    host.package = host'.package ∧ s = t := by
  by_cases hp : host.package.isEmpty = true <;> by_cases hp' : host'.package.isEmpty = true
  · rw [if_pos hp, if_pos hp', String.append_right_inj] at heq
    rw [String.isEmpty_iff.mp hp, String.isEmpty_iff.mp hp']
    exact ⟨rfl, (Line.print_append_inj heq h.oneLine_classLine h'.oneLine_classLine rfl).2⟩
  · simp only [if_pos hp, if_neg hp', Line.printAll_cons, Line.printAll_nil, String.empty_append,
      String.append_assoc] at heq
    exact absurd (Line.print_append_inj heq h.oneLine_classLine (h'.oneLine_packageLine hp')
      rfl).1.symm packageLine_ne_classLine
  · simp only [if_neg hp, if_pos hp', Line.printAll_cons, Line.printAll_nil, String.empty_append,
      String.append_assoc] at heq
    exact absurd (Line.print_append_inj heq (h.oneLine_packageLine hp) h'.oneLine_classLine
      rfl).1 packageLine_ne_classLine
  · simp only [if_neg hp, if_neg hp', Line.printAll_cons, String.append_assoc] at heq
    obtain ⟨hpackage, hrest⟩ := Line.print_append_inj heq (h.oneLine_packageLine hp)
      (h'.oneLine_packageLine hp') rfl
    rw [String.append_right_inj] at hrest
    refine ⟨?_, (Line.print_append_inj hrest h.oneLine_classLine h'.oneLine_classLine rfl).2⟩
    rwa [packageLine, packageLine, String.append_left_inj, String.append_right_inj] at hpackage

/-- The comment above a source is a line of its own, if there is one. -/
theorem header_append_inj (h : LegalFrame settings host) (h' : LegalFrame settings host')
    (heq : Line.printAll unit (if settings.header then [headerLine host] else []) ++ s =
      Line.printAll unit (if settings.header then [headerLine host'] else []) ++ t) : s = t := by
  by_cases hheader : settings.header = true
  · rw [if_pos hheader, if_pos hheader, Line.printAll_singleton, Line.printAll_singleton] at heq
    exact (Line.print_append_inj heq h.oneLine_headerLine h'.oneLine_headerLine rfl).2
  · rwa [if_neg hheader, if_neg hheader, String.append_right_inj] at heq

/-- The source of an injector tells the class, its package and the statements. -/
theorem injectorLines_inj (hframe : LegalFrame settings host) (hframe' : LegalFrame settings host')
    (h : ∀ x ∈ statements, x.Legal ∧ x.IsCallable) (h' : ∀ x ∈ statements', x.Legal ∧ x.IsCallable)
    (heq : Line.printAll unit (injectorLines settings version host statements) =
      Line.printAll unit (injectorLines settings version host' statements')) :
    host.name = host'.name ∧ host.package = host'.package ∧ statements = statements' := by
  rw [injectorLines_eq, injectorLines_eq, Line.printAll_append, Line.printAll_append _
    (if settings.header then [headerLine host'] else [])] at heq
  have hclass := header_append_inj hframe hframe' heq
  simp only [Line.printAll_append, Line.printAll_cons, Line.printAll_nil] at hclass
  obtain ⟨hpackage, hbody⟩ := package_append_inj hframe hframe' hclass
  rw [String.append_right_inj] at hbody
  obtain ⟨hmethod, hinside⟩ := Line.print_append_inj hbody hframe.oneLine_methodLine
    hframe'.oneLine_methodLine rfl
  rw [methodLine, methodLine, String.append_left_inj, String.append_right_inj] at hmethod
  rw [String.append_left_inj] at hinside
  exact ⟨hmethod, hpackage, Statement.flatMap_lines_inj hframe.runtime h h' hinside⟩

end

end ViewBinding
