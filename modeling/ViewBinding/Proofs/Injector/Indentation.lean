import ViewBinding.Proofs.Code.Indentation
import ViewBinding.Proofs.Injector.Reading

/-!
# The lines of an injector in its text

Each line of an injector stands at the depth of the braces around it, and only a declared type can
break it. So the text of an injector is indented by its braces, but for the lines that begin inside
such a type.

* `Statement.levels_lines`, `levels_injectorLines`: the levels of the lines.
* `Statement.textLines`, `count_injectorLines`: how many lines the text has.
* `indented_of_hasLine`: what a line of the text looks like.
-/

namespace ViewBinding

open Code Java Text

namespace Code.Line

variable {l : Line} {depth : Int} {front rest : String}

theorem head?_append {c : Char} (h : front.toList.head? = some c) :
    (front ++ rest).toList.head? = some c := by
  rw [String.toList_append, List.head?_append, h]
  rfl

/-- A line that begins with neither a blank nor a closing brace stands at its level. -/
theorem standsAt_of_head {c : Char} (h : l.text.toList.head? = some c) (hblank : c ≠ ' ')
    (hclose : c ≠ '}') : l.StandsAt l.level :=
  .inr ⟨c, h, hblank, by rw [if_neg hclose, add_zero]⟩

/-- A line that begins with a closing brace stands one level up. -/
theorem standsAt_of_close (h : l.text.toList.head? = some '}') : l.StandsAt (l.level + 1) :=
  .inr ⟨'}', h, by decide, rfl⟩

end Code.Line

namespace Statement

variable {runtime name type : String} {params : List String} {id : ViewId}

theorem head?_find (h : IsQualifiedName runtime) (id : ViewId) (rest : String) :
    ∃ c, (find runtime id ++ rest).toList.head? = some c ∧ c ≠ ' ' ∧ c ≠ '}' := by
  obtain ⟨c, hc, hstart⟩ := h.head
  refine ⟨c, ?_, ?_, ?_⟩
  · simp only [find, String.append_assoc]
    exact Line.head?_append hc
  · rintro rfl
    revert hstart
    decide
  · rintro rfl
    revert hstart
    decide

theorem levels_assign (version : SourceVersion) (hruntime : IsQualifiedName runtime)
    (h : (assign name type id).Legal) :
    Line.Levels 2 ((assign name type id).lines runtime version) 2 := by
  have hhost : braceDepth "host.".toList = 0 := by decide
  have hopen : braceDepth " = (".toList = 0 := by decide
  have hclose : braceDepth ") ".toList = 0 := by decide
  have hend : braceDepth ";".toList = 0 := by decide
  refine .cons_of_eq 2 (Line.standsAt_of_head (c := 'h') ?_ (by decide) (by decide)) ?_ .nil
  · simp only [String.append_assoc]
    exact Line.head?_append rfl
  · simp only [String.toList_append, braceDepth_append, h.1.neutral.braceDepth,
      (neutral_of_checkType h.2).braceDepth, (neutral_find hruntime id).braceDepth, hhost, hopen,
      hclose, hend]
    rfl

theorem levels_listen (version : SourceVersion) (hruntime : IsQualifiedName runtime)
    (h : (listen name params id).Legal) :
    Line.Levels 2 ((listen name params id).lines runtime version) 2 := by
  have hfind := (neutral_find hruntime id).braceDepth
  have hcall := (neutral_call h.1 h.2).braceDepth
  have hend : braceDepth ";".toList = 0 := by decide
  rw [lines]
  split
  · have hopen : braceDepth ".setOnClickListener(view -> ".toList = 0 := by decide +kernel
    have hclose : braceDepth ");".toList = 0 := by decide
    obtain ⟨c, hc, hblank, hbrace⟩ := head?_find hruntime id
      (".setOnClickListener(view -> " ++ (call name params ++ ");"))
    refine .cons_of_eq 2 (Line.standsAt_of_head (c := c) ?_ hblank hbrace) ?_ .nil
    · simpa only [String.append_assoc] using hc
    · simp only [String.toList_append, braceDepth_append, hfind, hcall, hopen, hclose]
      rfl
  · have hopen : braceDepth
        ".setOnClickListener(new android.view.View.OnClickListener() \x7b".toList = 1 := by
      decide +kernel
    obtain ⟨c, hc, hblank, hbrace⟩ := head?_find hruntime id
      ".setOnClickListener(new android.view.View.OnClickListener() \x7b"
    refine .cons_of_eq 3 (Line.standsAt_of_head hc hblank hbrace) ?_ ?_
    · rw [String.toList_append, braceDepth_append, hfind, hopen]
      rfl
    refine .cons_of_eq 3 (Line.standsAt_of_head (c := '@') rfl (by decide) (by decide))
      (by decide) ?_
    refine .cons_of_eq 4 (Line.standsAt_of_head (c := 'p') rfl (by decide) (by decide))
      (by decide +kernel) ?_
    refine .cons_of_eq 4 (Line.standsAt_of_head (c := 'h') ?_ (by decide) (by decide))
      ?_ ?_
    · rw [call_eq, String.append_assoc]
      exact Line.head?_append rfl
    · rw [String.toList_append, braceDepth_append, hcall, hend]
      rfl
    refine .cons_of_eq 3 (Line.standsAt_of_close rfl) (by decide) ?_
    exact .cons_of_eq 2 (Line.standsAt_of_close rfl) (by decide) .nil

/-- The lines of a statement stand at the depth of the method, and leave it as it is. -/
theorem levels_lines (version : SourceVersion) (hruntime : IsQualifiedName runtime)
    {statement : Statement} (h : statement.Legal) :
    Line.Levels 2 (statement.lines runtime version) 2 := by
  cases statement with
  | assign name type id => exact levels_assign version hruntime h
  | listen name params id => exact levels_listen version hruntime h

theorem levels_flatMap_lines (version : SourceVersion) (hruntime : IsQualifiedName runtime)
    {statements : List Statement} (h : ∀ statement ∈ statements, statement.Legal) :
    Line.Levels 2 (statements.flatMap (·.lines runtime version)) 2 := by
  induction statements with
  | nil => exact .nil
  | cons statement rest ih =>
    obtain ⟨hhead, hrest⟩ := List.forall_mem_cons.mp h
    rw [List.flatMap_cons]
    exact (levels_lines version hruntime hhead).append (ih hrest)

/-! ## Breaks -/

theorem oneLine_find (h : IsQualifiedName runtime) (id : ViewId) : OneLine (find runtime id) := by
  have hcall : OneLine ".ViewFinder.findViewById(source, " := by decide +kernel
  have hclose : OneLine ")" := by decide
  have hid : OneLine (toString id.toInt) := fun hmem => by
    rcases mem_toString hmem with hdigit | hdigit <;> cases hdigit
  exact ((h.oneLine.append hcall).append hid).append hclose

theorem oneLine_call (hname : IsIdentifier name)
    (hparams : ∀ type ∈ params.head?, IsQualifiedName type) : OneLine (call name params) := by
  have hhost : OneLine "host." := by decide
  rw [call_eq]
  refine hhost.append (hname.oneLine.append ?_)
  rcases arguments_cases params with ⟨-, h⟩ | ⟨-, h⟩ | ⟨type, htype, h⟩ <;> rw [h]
  · decide
  · decide
  · have hopen : OneLine "((" := by decide
    have hclose : OneLine ") view)" := by decide
    exact hopen.append ((hparams type htype).oneLine.append hclose)

/-- No line of a listener is broken. -/
theorem oneLine_of_mem_listen {version : SourceVersion} (hruntime : IsQualifiedName runtime)
    (h : (listen name params id).Legal) {l : Line}
    (hl : l ∈ (listen name params id).lines runtime version) : OneLine l.text := by
  have hfind := oneLine_find hruntime id
  have hcall := oneLine_call h.1 h.2
  revert l
  rw [lines]
  split
  · have hopen : OneLine ".setOnClickListener(view -> " := by decide +kernel
    have hclose : OneLine ");" := by decide
    rw [List.forall_mem_singleton]
    exact ((hfind.append hopen).append hcall).append hclose
  · have hopen : OneLine ".setOnClickListener(new android.view.View.OnClickListener() \x7b" := by
      decide +kernel
    have hend : OneLine ";" := by decide
    simp only [List.forall_mem_cons, List.not_mem_nil, false_imp_iff, implies_true, and_true]
    exact ⟨hfind.append hopen, by decide, by decide +kernel, hcall.append hend, by decide,
      by decide⟩

/-- How many lines of text the statement takes. -/
def textLines (version : SourceVersion) : Statement → Nat
  | assign _ type _ => type.toList.count '\n' + 1
  | listen .. => if version.hasLambdas then 1 else 6

end Statement

section

variable {settings : Settings} {host : HostClass} {statements : List Statement}

/-! ## The frame -/

theorem LegalFrame.levels_header (h : LegalFrame settings host) :
    Line.Levels 0 (if settings.header then [headerLine host] else []) 0 := by
  have hfrom : braceDepth "// Generated by viewinject from ".toList = 0 := by decide +kernel
  have hmodify : braceDepth ". Do not modify.".toList = 0 := by decide
  split
  · refine .cons_of_eq 0 (Line.standsAt_of_head (c := '/') ?_ (by decide) (by decide)) ?_ .nil
    · rw [headerLine, String.append_assoc]
      exact Line.head?_append rfl
    · simp only [headerLine, String.toList_append, braceDepth_append, hfrom, hmodify,
        h.owner.neutral.braceDepth]
      rfl
  · exact .nil

theorem LegalFrame.levels_package (h : LegalFrame settings host) :
    Line.Levels 0 (if host.package.isEmpty then [] else [packageLine host, ⟨0, ""⟩]) 0 := by
  have hkeyword : braceDepth "package ".toList = 0 := by decide
  have hend : braceDepth ";".toList = 0 := by decide
  split
  · exact .nil
  · next hne =>
    refine .cons_of_eq 0 (Line.standsAt_of_head (c := 'p') ?_ (by decide) (by decide)) ?_
      (.cons_of_eq 0 (.inl ⟨rfl, rfl⟩) (by decide) .nil)
    · rw [packageLine, String.append_assoc]
      exact Line.head?_append rfl
    · simp only [packageLine, String.toList_append, braceDepth_append, hkeyword, hend,
        (h.isQualifiedName_package hne).neutral.braceDepth]
      rfl

/-- The lines that open the class and the method open a brace each. -/
theorem LegalFrame.levels_opening {ls : List Line} {after : Int} (h : LegalFrame settings host)
    (hrest : Line.Levels 2 ls after) :
    Line.Levels 0 (classLine settings host :: ⟨1, "@Override"⟩ :: methodLine host :: ls) after := by
  refine .cons_of_eq 1 (Line.standsAt_of_head (c := 'p') ?_ (by decide) (by decide)) ?_
    (.cons_of_eq 1 (Line.standsAt_of_head (c := '@') rfl (by decide) (by decide))
      (by decide)
      (.cons_of_eq 2 (Line.standsAt_of_head (c := 'p') ?_ (by decide) (by decide)) ?_ hrest))
  · simp only [classLine, String.append_assoc]
    exact Line.head?_append rfl
  · have hkeyword : braceDepth "public class ".toList = 0 := by decide
    have himplements : braceDepth " implements ".toList = 0 := by decide
    have hopen : braceDepth ".ViewInject<".toList = 0 := by decide
    have hclose : braceDepth "> \x7b".toList = 1 := by decide
    simp only [classLine, String.toList_append, braceDepth_append, hkeyword, himplements, hopen,
      hclose, h.injector.neutral.braceDepth, h.runtime.neutral.braceDepth,
      h.owner.neutral.braceDepth]
    rfl
  · rw [methodLine, String.append_assoc]
    exact Line.head?_append rfl
  · have hinject : braceDepth "public void inject(final ".toList = 0 := by decide +kernel
    have hsource : braceDepth " host, Object source) \x7b".toList = 1 := by decide +kernel
    simp only [methodLine, String.toList_append, braceDepth_append, hinject, hsource,
      h.owner.neutral.braceDepth]
    rfl

/-- The lines of an injector stand at the depth of the braces around them. -/
theorem levels_injectorLines (hframe : LegalFrame settings host) (version : SourceVersion)
    (hlegal : ∀ statement ∈ statements, statement.Legal) :
    Line.Levels 0 (injectorLines settings version host statements) 0 := by
  have hstatements := Statement.levels_flatMap_lines version hframe.runtime hlegal
  have hclosing : Line.Levels 2 [⟨1, "\x7d"⟩, ⟨0, "\x7d"⟩] 0 :=
    .cons_of_eq 1 (Line.standsAt_of_close rfl) (by decide)
      (.cons_of_eq 0 (Line.standsAt_of_close rfl) (by decide) .nil)
  rw [injectorLines_eq]
  exact hframe.levels_header.append
    (hframe.levels_package.append (hframe.levels_opening (hstatements.append hclosing)))

/-- Only the statement of a field can be broken. -/
theorem oneLine_or_assign (hframe : LegalFrame settings host) {version : SourceVersion}
    (hlegal : ∀ statement ∈ statements, statement.Legal) {l : Line}
    (hl : l ∈ injectorLines settings version host statements) :
    OneLine l.text ∨ ∃ name type id, .assign name type id ∈ statements ∧
      l ∈ (Statement.assign name type id).lines settings.runtimePackage version := by
  rw [injectorLines_eq] at hl
  simp only [List.mem_append, List.mem_cons, List.mem_flatMap, List.not_mem_nil, or_false] at hl
  rcases hl with hl | hl | rfl | rfl | rfl | ⟨statement, hmem, hl⟩ | rfl | rfl
  case inl =>
    split at hl
    · rw [List.mem_singleton.mp hl]
      exact .inl hframe.oneLine_headerLine
    · cases hl
  case inr.inl =>
    split at hl
    · cases hl
    · next hne =>
      rcases List.mem_cons.mp hl with rfl | hl
      · exact .inl (hframe.oneLine_packageLine hne)
      · rw [List.mem_singleton.mp hl]
        exact .inl (by decide)
  · exact .inl hframe.oneLine_classLine
  · exact .inl (by decide)
  · exact .inl hframe.oneLine_methodLine
  · cases statement with
    | assign name type id => exact .inr ⟨name, type, id, hmem, hl⟩
    | listen name params id =>
      exact .inl (Statement.oneLine_of_mem_listen hframe.runtime (hlegal _ hmem) hl)
  · exact .inl (by decide)
  · exact .inl (by decide)

/-! ## The lines of the text -/

/-- The text ends inside the type of a field, behind a line feed. -/
def EndsInType (name type : String) (text : List Char) : Prop :=
  ∃ front t u, type.toList = t ++ '\n' :: u ∧
    text = front ++ (("host." ++ name ++ " = (").toList ++ (t ++ ['\n']))

theorem not_endsInType {name type : String} {text : List Char} (h : OneLine type) :
    ¬ EndsInType name type text := by
  rintro ⟨front, t, u, htype, -⟩
  exact h (by rw [htype]; simp)

/-- A line of the text is indented by its braces, unless it begins inside a type. -/
theorem indented_of_hasLine (hframe : LegalFrame settings host) (version : SourceVersion)
    (hlegal : ∀ statement ∈ statements, statement.Legal) {before line : List Char}
    (h : HasLine (Line.printAll (Line.blanks settings.indent)
      (injectorLines settings version host statements)).toList before line) (hne : line ≠ []) :
    Indented settings.indent before line ∨
      ∃ name type id, .assign name type id ∈ statements ∧ EndsInType name type before := by
  obtain ⟨above, l, below, part, hlines, rfl, hpart⟩ := Line.hasLine_printAll h
  have hlevels := levels_injectorLines hframe version hlegal
  rw [hlines] at hlevels
  have hstands : l.StandsAt (0 + braceDepth
      (Line.printAll (Line.blanks settings.indent) above).toList) := hlevels.standsAt
  rw [zero_add] at hstands
  have hl : l ∈ injectorLines settings version host statements := by
    rw [hlines]
    exact List.mem_append_right _ List.mem_cons_self
  -- The line of text is all of a printed line, or a part of one that a type has broken.
  rcases oneLine_or_assign hframe hlegal hl with hone | ⟨name, type, id, hmem, hassign⟩
  · obtain ⟨rfl, hindented⟩ := hstands.of_oneLine hone hpart hne
    rw [List.append_nil]
    exact .inl hindented
  · obtain ⟨hname, -⟩ := hlegal _ hmem
    have hfront : OneLine ("host." ++ name ++ " = (") := by
      have hhost : OneLine "host." := by decide
      have hopen : OneLine " = (" := by decide
      exact (hhost.append hname.oneLine).append hopen
    have hback : OneLine (") " ++ (Statement.find settings.runtimePackage id ++ ";")) := by
      have hclose : OneLine ") " := by decide
      have hend : OneLine ";" := by decide
      exact hclose.append ((Statement.oneLine_find hframe.runtime id).append hend)
    have hfrontne : "host." ++ name ++ " = (" ≠ "" := fun h => by
      rw [String.append_assoc, String.append_eq_empty_iff] at h
      exact absurd h.1 (by decide)
    rw [Statement.lines, List.mem_singleton] at hassign
    have htext : l.text = "host." ++ name ++ " = (" ++ (type ++ (") " ++
        (Statement.find settings.runtimePackage id ++ ";"))) := by
      rw [hassign]
      simp only [String.append_assoc]
    rcases hstands.of_broken htext hfront hback hfrontne hpart with ⟨rfl, hindented⟩ |
      ⟨t, u, htype, rfl⟩
    · rw [List.append_nil]
      exact .inl hindented
    · rw [List.append_assoc, ← List.append_assoc (Line.printAll _ above).toList]
      exact .inr ⟨name, type, id, hmem, _, t, u, htype, rfl⟩

/-! ## How many lines the text has -/

theorem Statement.textLines_lines {runtime : String} (hruntime : IsQualifiedName runtime)
    (version : SourceVersion) {statement : Statement} (h : statement.Legal) :
    Line.textLines (statement.lines runtime version) = statement.textLines version := by
  cases statement with
  | assign name type id =>
    have hhost : "host.".toList.count '\n' = 0 := by decide
    have hopen : " = (".toList.count '\n' = 0 := by decide
    have hclose : ") ".toList.count '\n' = 0 := by decide
    have hend : ";".toList.count '\n' = 0 := by decide
    have hname := List.count_eq_zero_of_not_mem h.1.oneLine
    have hfind := List.count_eq_zero_of_not_mem (oneLine_find hruntime id)
    rw [lines, Line.textLines_cons]
    simp only [String.toList_append, List.count_append, hhost, hopen, hclose, hend, hname, hfind,
      Nat.zero_add, Nat.add_zero]
    rfl
  | listen name params id =>
    rw [Line.textLines_of_oneLine fun l hl => oneLine_of_mem_listen hruntime h hl, lines, textLines]
    split <;> rfl

theorem Statement.textLines_flatMap_lines {runtime : String} (hruntime : IsQualifiedName runtime)
    (version : SourceVersion) (hlegal : ∀ statement ∈ statements, statement.Legal) :
    Line.textLines (statements.flatMap (·.lines runtime version)) =
      (statements.map (·.textLines version)).sum := by
  induction statements with
  | nil => rfl
  | cons statement rest ih =>
    obtain ⟨hhead, hrest⟩ := List.forall_mem_cons.mp hlegal
    rw [List.flatMap_cons, Line.textLines_append, textLines_lines hruntime version hhead, ih hrest,
      List.map_cons, List.sum_cons]

theorem injectorLines_ne_nil {version : SourceVersion} :
    injectorLines settings version host statements ≠ [] := by
  rw [injectorLines_eq]
  simp

/-- How many lines the frame of an injector takes. -/
def frameLines (settings : Settings) (host : HostClass) : Nat :=
  (if settings.header then 1 else 0) + (if host.package.isEmpty then 0 else 2) + 5

/-- The text has the lines of the frame and those of the statements. -/
theorem count_injectorLines (hframe : LegalFrame settings host) (version : SourceVersion)
    (hlegal : ∀ statement ∈ statements, statement.Legal) :
    (Line.printAll (Line.blanks settings.indent)
      (injectorLines settings version host statements)).toList.count '\n' =
      frameLines settings host + (statements.map (·.textLines version)).sum := by
  have hheader : Line.textLines (if settings.header then [headerLine host] else []) =
      if settings.header then 1 else 0 := by
    split
    · exact Line.textLines_of_oneLine (by simpa using hframe.oneLine_headerLine)
    · rfl
  have hpackage : Line.textLines
      (if host.package.isEmpty then [] else [packageLine host, ⟨0, ""⟩]) =
      if host.package.isEmpty then 0 else 2 := by
    split
    · rfl
    · next hne =>
      exact Line.textLines_of_oneLine (List.forall_mem_cons.mpr ⟨hframe.oneLine_packageLine hne,
        List.forall_mem_singleton.mpr (by decide)⟩)
  have hclosing : Line.textLines [⟨1, "\x7d"⟩, ⟨0, "\x7d"⟩] = 2 := by decide
  rw [Line.count_printAll, injectorLines_eq, Line.textLines_append, Line.textLines_append, hheader,
    hpackage, Line.textLines_cons, Line.textLines_cons, Line.textLines_cons, Line.textLines_append,
    Statement.textLines_flatMap_lines hframe.runtime version hlegal, hclosing,
    List.count_eq_zero_of_not_mem hframe.oneLine_classLine,
    List.count_eq_zero_of_not_mem hframe.oneLine_methodLine, frameLines]
  have hoverride : "@Override".toList.count '\n' = 0 := by decide
  rw [hoverride]
  omega

end

end ViewBinding
