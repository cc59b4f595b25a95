import ViewBinding.Proofs.Injector.Statements
import ViewBinding.Proofs.Java.Types

/-!
# The structure of an injector

The delimiters in the source of an injector are those of its frame and of its statements, as long as
all names and types in it are legal. So they are nested properly, the braces of the class are closed
by the last line only, and the ends of statements can be counted.

* `Statement.reads_lines`: the lines of one statement.
* `reads_linesInside`: the lines inside the braces of the class.
* `reads_injectorLines`, `isClassSource_injectorLines`: the whole source.
-/

namespace ViewBinding

open Code Java Text

/-! ## Lines -/

namespace Code.Line

variable {unit : String} {before between after : List Char} {l : Line} {ls ms : List Line}
  {m n : Nat}

theorem neutral_indentation (hunit : Neutral unit.toList) (level : Nat) :
    Neutral (indentation unit level).toList := by
  induction level with
  | zero => exact neutral_nil
  | succ level ih =>
    rw [indentation_succ, String.toList_append]
    exact hunit.append ih

/-- A line is read as its text is. -/
theorem reads_print (hunit : Neutral unit.toList) (h : Reads before l.text.toList n after) :
    Reads before (l.print unit).toList n after := by
  have hend : Neutral "\n".toList := ⟨by decide, by decide⟩
  rw [print, String.toList_append, String.toList_append]
  exact ((neutral_indentation hunit l.level).reads_append h).append_neutral hend

theorem reads_nil : Reads before (printAll unit []).toList 0 before :=
  neutral_nil.reads before

/-- Lines are read one after the other. -/
theorem reads_cons (hunit : Neutral unit.toList) (h : Reads before l.text.toList m between)
    (hrest : Reads between (printAll unit ls).toList n after) :
    Reads before (printAll unit (l :: ls)).toList (m + n) after := by
  rw [printAll_cons, String.toList_append]
  exact (reads_print hunit h).append hrest

theorem reads_append (h : Reads before (printAll unit ls).toList m between)
    (hrest : Reads between (printAll unit ms).toList n after) :
    Reads before (printAll unit (ls ++ ms)).toList (m + n) after := by
  rw [printAll_append, String.toList_append]
  exact h.append hrest

/-- Lines at the margin hold the braces of their texts only. -/
theorem braceless_printAll (h : ∀ l ∈ ls, l.level = 0 ∧ Braceless l.text.toList) :
    Braceless (printAll unit ls).toList := by
  induction ls with
  | nil => exact braceless_of_plain fun c hc => by cases hc
  | cons l rest ih =>
    obtain ⟨⟨hlevel, htext⟩, hrest⟩ := List.forall_mem_cons.mp h
    have hmargin : indentation unit 0 = "" := rfl
    have hend : Braceless "\n".toList := by decide
    rw [printAll_cons, print, hlevel, hmargin, String.empty_append, String.toList_append,
      String.toList_append]
    exact (htext.append hend).append (ih hrest)

end Code.Line

/-! ## Statements -/

namespace Statement

/-- The names and types of the statement are legal. -/
def Legal : Statement → Prop
  | assign name type _ => IsIdentifier name ∧ checkType type = .ok ()
  | listen name params _ => IsIdentifier name ∧ ∀ type ∈ params.head?, IsQualifiedName type

/-- How many statements of Java it takes: a listener without lambda expressions is a class with a
statement of its own. -/
def ends (version : SourceVersion) : Statement → Nat
  | assign .. => 1
  | listen .. => if version.hasLambdas then 1 else 2

variable {runtime name unit : String} {params : List String}

theorem neutral_find (h : IsQualifiedName runtime) (id : ViewId) :
    Neutral (find runtime id).toList := by
  have hcall : Reads [] ".ViewFinder.findViewById(source, ".toList 0 [')'] :=
    ⟨by decide +kernel, by decide +kernel⟩
  have hclose : Reads [')'] ")".toList 0 [] := ⟨by decide, by decide⟩
  simp only [find, String.toList_append]
  exact ((h.neutral.reads_append hcall).append_neutral (neutral_toString id.toInt)).append hclose

theorem neutral_call (hname : IsIdentifier name)
    (hparams : ∀ type ∈ params.head?, IsQualifiedName type) :
    Neutral (call name params).toList := by
  have hhost : Neutral "host.".toList := ⟨by decide, by decide⟩
  cases params with
  | nil =>
    have hcall : Neutral "()".toList := ⟨by decide, by decide⟩
    simp only [call, String.toList_append]
    exact (hhost.append hname.neutral).append hcall
  | cons type rest =>
    have htype := (hparams type rfl).neutral
    by_cases hview : type = "android.view.View"
    · have hcall : Neutral "(view)".toList := ⟨by decide, by decide⟩
      simp only [call, if_pos hview, String.toList_append]
      exact (hhost.append hname.neutral).append hcall
    · have hopen : Reads [] "((".toList 0 [')', ')'] := ⟨by decide, by decide⟩
      have hclose : Reads [')', ')'] ") view)".toList 0 [] := ⟨by decide, by decide⟩
      simp only [call, if_neg hview, String.toList_append]
      exact (((hhost.append hname.neutral).reads_append hopen).append_neutral htype).append hclose

/-- The lines of a statement leave nothing open, and end as many statements as it takes. -/
theorem reads_lines (version : SourceVersion) (hunit : Neutral unit.toList)
    (hruntime : IsQualifiedName runtime) {statement : Statement} (h : statement.Legal) :
    Reads [] (Line.printAll unit (statement.lines runtime version)).toList
      (statement.ends version) [] := by
  cases statement with
  | assign name type id =>
    obtain ⟨hname, htype⟩ := h
    have hhost : Neutral "host.".toList := ⟨by decide, by decide⟩
    have hopen : Reads [] " = (".toList 0 [')'] := ⟨by decide, by decide⟩
    have hclose : Reads [')'] ") ".toList 0 [] := ⟨by decide, by decide⟩
    have hend : Reads [] ";".toList 1 [] := ⟨by decide, by decide⟩
    refine Line.reads_cons (m := 1) hunit ?_ Line.reads_nil
    simp only [String.toList_append]
    have hcast := ((hhost.append hname.neutral).reads_append hopen).append_neutral
      (neutral_of_checkType htype)
    exact ((hcast.append hclose).append_neutral (neutral_find hruntime id)).append hend
  | listen name params id =>
    obtain ⟨hname, hparams⟩ := h
    have hfind := neutral_find hruntime id
    have hcall := neutral_call hname hparams
    rw [lines, ends]
    split
    · have hopen : Reads [] ".setOnClickListener(view -> ".toList 0 [')'] :=
        ⟨by decide +kernel, by decide +kernel⟩
      have hclose : Reads [')'] ");".toList 1 [] := ⟨by decide, by decide⟩
      refine Line.reads_cons (m := 1) hunit ?_ Line.reads_nil
      simp only [String.toList_append]
      exact ((hfind.reads_append hopen).append_neutral hcall).append hclose
    · have hopen : Reads [] (find runtime id ++
          ".setOnClickListener(new android.view.View.OnClickListener() \x7b").toList
          0 ['}', ')'] := by
        rw [String.toList_append]
        exact hfind.reads_append ⟨by decide +kernel, by decide +kernel⟩
      have hoverride : Neutral "@Override".toList := ⟨by decide, by decide⟩
      have hmethod : Reads [] "public void onClick(android.view.View view) \x7b".toList 0 ['}'] :=
        ⟨by decide +kernel, by decide +kernel⟩
      have hstatement : Reads [] (call name params ++ ";").toList 1 [] := by
        rw [String.toList_append]
        exact hcall.reads_append ⟨by decide, by decide⟩
      have hbrace : Reads ['}'] "\x7d".toList 0 [] := ⟨by decide, by decide⟩
      have hclose : Reads ['}', ')'] "\x7d);".toList 1 [] := ⟨by decide, by decide⟩
      -- Six lines, each with what it closes and opens; the brackets below are framed off.
      refine Line.reads_cons (m := 0) (n := 2) hunit hopen ?_
      refine Line.reads_cons (m := 0) (n := 2) hunit (hoverride.reads _) ?_
      refine Line.reads_cons (m := 0) (n := 2) hunit (hmethod.frame _) ?_
      refine Line.reads_cons (m := 1) (n := 1) hunit (hstatement.frame _) ?_
      refine Line.reads_cons (m := 0) (n := 1) hunit (hbrace.frame _) ?_
      exact Line.reads_cons (m := 1) (n := 0) hunit hclose Line.reads_nil

/-- So do the lines of several statements. -/
theorem reads_flatMap_lines (version : SourceVersion) (hunit : Neutral unit.toList)
    (hruntime : IsQualifiedName runtime) {statements : List Statement}
    (h : ∀ statement ∈ statements, statement.Legal) :
    Reads [] (Line.printAll unit (statements.flatMap (·.lines runtime version))).toList
      (statements.map (·.ends version)).sum [] := by
  induction statements with
  | nil => exact Line.reads_nil
  | cons statement rest ih =>
    obtain ⟨hhead, hrest⟩ := List.forall_mem_cons.mp h
    rw [List.flatMap_cons, List.map_cons, List.sum_cons]
    exact Line.reads_append (reads_lines version hunit hruntime hhead) (ih hrest)

end Statement

/-! ## The frame -/

/-- The names in the frame of an injector are legal. -/
structure LegalFrame (settings : Settings) (host : HostClass) : Prop where
  owner : IsQualifiedName host.name
  package : host.package = "" ∨ IsQualifiedName host.package
  injector : IsIdentifier (host.injectorName settings.classSuffix)
  runtime : IsQualifiedName settings.runtimePackage

theorem LegalFrame.isQualifiedName_package {settings : Settings} {host : HostClass}
    (h : LegalFrame settings host) (hne : ¬ host.package.isEmpty = true) :
    IsQualifiedName host.package :=
  h.package.resolve_left fun heq => hne (by rw [heq]; rfl)

/-- The lines above the class. -/
def linesAbove (settings : Settings) (host : HostClass) : List Line :=
  (if settings.header then
    [⟨0, "// Generated by viewinject from " ++ host.name ++ ". Do not modify."⟩] else []) ++
  (if host.package.isEmpty then [] else [⟨0, "package " ++ host.package ++ ";"⟩, ⟨0, ""⟩])

/-- What stands between the keyword of the class and its opening brace. -/
def classHeader (settings : Settings) (host : HostClass) : String :=
  host.injectorName settings.classSuffix ++ " implements " ++ settings.runtimePackage ++
    ".ViewInject<" ++ host.name ++ "> "

/-- The lines inside the braces of the class. -/
def linesInside (settings : Settings) (version : SourceVersion) (host : HostClass)
    (statements : List Statement) : List Line :=
  [⟨1, "@Override"⟩,
    ⟨1, "public void inject(final " ++ host.name ++ " host, Object source) \x7b"⟩] ++
  statements.flatMap (·.lines settings.runtimePackage version) ++ [⟨1, "\x7d"⟩]

/-- A statement ends the package declaration, if there is one. -/
def HostClass.packageEnds (host : HostClass) : Nat :=
  if host.package.isEmpty then 0 else 1

section

variable {settings : Settings} {host : HostClass} {unit : String} {statements : List Statement}

/-- The source of an injector, cut at the braces of the class. -/
theorem printAll_injectorLines (version : SourceVersion) :
    Line.printAll unit (injectorLines settings version host statements) =
      Line.printAll unit (linesAbove settings host) ++ "public class " ++
        classHeader settings host ++ "\x7b" ++
        ("\n" ++ Line.printAll unit (linesInside settings version host statements)) ++
        "\x7d\n" := by
  have hlines : injectorLines settings version host statements =
      linesAbove settings host ++ (⟨0, "public class " ++ classHeader settings host ++ "\x7b"⟩ ::
        (linesInside settings version host statements ++ [⟨0, "\x7d"⟩])) := by
    have hbrace : "> \x7b" = "> " ++ "\x7b" := rfl
    simp only [injectorLines, linesAbove, linesInside, classHeader, hbrace, List.append_assoc,
      List.cons_append, List.nil_append, String.append_assoc]
  have hlevel : Line.indentation unit 0 = "" := rfl
  have hend : "\x7d\n" = "\x7d" ++ "\n" := rfl
  rw [hlines, Line.printAll_append, Line.printAll_cons, Line.printAll_append,
    Line.printAll_singleton, Line.print, Line.print, hlevel, String.empty_append,
    String.empty_append, hend]
  simp only [String.append_assoc]

variable (hframe : LegalFrame settings host)

include hframe

theorem neutral_classHeader : Neutral (classHeader settings host).toList := by
  have himplements : Neutral " implements ".toList := ⟨by decide, by decide⟩
  have hopen : Neutral ".ViewInject<".toList := ⟨by decide, by decide⟩
  have hclose : Neutral "> ".toList := ⟨by decide, by decide⟩
  simp only [classHeader, String.toList_append]
  exact ((((hframe.injector.neutral.append himplements).append hframe.runtime.neutral).append
    hopen).append hframe.owner.neutral).append hclose

theorem braceless_classHeader : Braceless (classHeader settings host).toList := by
  have hinjector := hframe.injector.isQualifiedName.braceless
  have himplements : Braceless " implements ".toList := by decide
  have hopen : Braceless ".ViewInject<".toList := by decide
  have hclose : Braceless "> ".toList := by decide
  simp only [classHeader, String.toList_append]
  exact ((((hinjector.append himplements).append hframe.runtime.braceless).append hopen).append
    hframe.owner.braceless).append hclose

theorem reads_linesAbove (hunit : Neutral unit.toList) :
    Reads [] (Line.printAll unit (linesAbove settings host)).toList host.packageEnds [] := by
  have hheader : Neutral (Line.printAll unit (if settings.header then
      [⟨0, "// Generated by viewinject from " ++ host.name ++ ". Do not modify."⟩]
      else [])).toList := by
    split
    · have hfrom : Neutral "// Generated by viewinject from ".toList :=
        ⟨by decide +kernel, by decide +kernel⟩
      have hmodify : Neutral ". Do not modify.".toList := ⟨by decide +kernel, by decide +kernel⟩
      refine Line.reads_cons (m := 0) (n := 0) hunit ?_ Line.reads_nil
      simp only [String.toList_append]
      exact (hfrom.append hframe.owner.neutral).append hmodify
    · exact neutral_nil
  unfold linesAbove HostClass.packageEnds
  rw [Line.printAll_append, String.toList_append]
  refine hheader.reads_append ?_
  split
  · exact neutral_nil
  · next hne =>
    have hkeyword : Neutral "package ".toList := ⟨by decide, by decide⟩
    have hend : Reads [] ";".toList 1 [] := ⟨by decide, by decide⟩
    refine Line.reads_cons (m := 1) (n := 0) hunit ?_
      (Line.reads_cons (m := 0) (n := 0) hunit neutral_nil Line.reads_nil)
    simp only [String.toList_append]
    exact (hkeyword.append (hframe.isQualifiedName_package hne).neutral).reads_append hend

theorem braceless_linesAbove :
    Braceless (Line.printAll unit (linesAbove settings host)).toList := by
  refine Line.braceless_printAll fun l hl => ?_
  unfold linesAbove at hl
  rcases List.mem_append.mp hl with hl | hl
  · split at hl
    · rw [List.mem_singleton.mp hl]
      have hfrom : Braceless "// Generated by viewinject from ".toList := by decide +kernel
      have hmodify : Braceless ". Do not modify.".toList := by decide
      refine ⟨rfl, ?_⟩
      simp only [String.toList_append]
      exact (hfrom.append hframe.owner.braceless).append hmodify
    · cases hl
  · split at hl
    · cases hl
    · next hne =>
      rcases List.mem_cons.mp hl with rfl | hl
      · have hkeyword : Braceless "package ".toList := by decide
        have hend : Braceless ";".toList := by decide
        refine ⟨rfl, ?_⟩
        simp only [String.toList_append]
        exact (hkeyword.append (hframe.isQualifiedName_package hne).braceless).append hend
      · rw [List.mem_singleton.mp hl]
        exact ⟨rfl, by decide⟩

theorem reads_linesInside (version : SourceVersion) (hunit : Neutral unit.toList)
    (hlegal : ∀ statement ∈ statements, statement.Legal) :
    Reads [] (Line.printAll unit (linesInside settings version host statements)).toList
      (statements.map (·.ends version)).sum [] := by
  have hoverride : Neutral "@Override".toList := ⟨by decide, by decide⟩
  have hopen : Reads [] ("public void inject(final " ++ host.name ++
      " host, Object source) \x7b").toList 0 ['}'] := by
    have hinject : Reads [] "public void inject(final ".toList 0 [')'] :=
      ⟨by decide +kernel, by decide +kernel⟩
    have hsource : Reads [')'] " host, Object source) \x7b".toList 0 ['}'] :=
      ⟨by decide +kernel, by decide +kernel⟩
    simp only [String.toList_append]
    exact (hinject.append_neutral hframe.owner.neutral).append hsource
  have hclose : Reads ['}'] "\x7d".toList 0 [] := ⟨by decide, by decide⟩
  have hbefore : Reads [] (Line.printAll unit [⟨1, "@Override"⟩, ⟨1, "public void inject(final " ++
      host.name ++ " host, Object source) \x7b"⟩]).toList 0 ['}'] :=
    Line.reads_cons (m := 0) (n := 0) hunit hoverride
      (Line.reads_cons (m := 0) (n := 0) hunit hopen Line.reads_nil)
  have hafter : Reads ['}'] (Line.printAll unit [⟨1, "\x7d"⟩]).toList 0 [] :=
    Line.reads_cons (m := 0) (n := 0) hunit hclose Line.reads_nil
  have hstatements := Statement.reads_flatMap_lines version hunit hframe.runtime hlegal
  have hinside := Line.reads_append (Line.reads_append hbefore (hstatements.frame ['}'])) hafter
  rw [Nat.zero_add, Nat.add_zero] at hinside
  exact hinside

/-- The whole source leaves nothing open. -/
theorem reads_injectorLines (version : SourceVersion) (hunit : Neutral unit.toList)
    (hlegal : ∀ statement ∈ statements, statement.Legal) :
    Reads [] (Line.printAll unit (injectorLines settings version host statements)).toList
      (host.packageEnds + (statements.map (·.ends version)).sum) [] := by
  have hkeyword : Neutral "public class ".toList := ⟨by decide, by decide⟩
  have hopen : Reads [] "\x7b".toList 0 ['}'] := ⟨by decide, by decide⟩
  have hline : Neutral "\n".toList := ⟨by decide, by decide⟩
  have hclose : Reads ['}'] "\x7d\n".toList 0 [] := ⟨by decide, by decide⟩
  have hinside := reads_linesInside hframe version hunit hlegal
  rw [printAll_injectorLines]
  simp only [String.toList_append]
  have hfront := ((reads_linesAbove hframe hunit).append_neutral hkeyword).append_neutral
    (neutral_classHeader hframe)
  exact ((hfront.append hopen).append ((hline.reads_append hinside).frame ['}'])).append hclose

end

/-! ## The source of a class -/

/-- The text is the source of one class. Its delimiters are nested properly. The braces of the class
open before all others and close with the last line: the depth of braces is positive from one to the
other, and never negative. -/
structure IsClassSource (text : String) : Prop where
  nested : IsNested text.toList
  depth_nonneg : ∀ part, part <+: text.toList → 0 ≤ braceDepth part
  block : ∃ above header body : String,
    text = above ++ "public class " ++ header ++ "\x7b" ++ body ++ "\x7d\n" ∧
    Braceless (above ++ "public class " ++ header).toList ∧
    (∀ part, part <+: body.toList →
      0 < braceDepth ((above ++ "public class " ++ header).toList ++ '{' :: part)) ∧
    braceDepth text.toList = 0

theorem isClassSource_injectorLines {settings : Settings} {host : HostClass} {unit : String}
    {statements : List Statement} (hframe : LegalFrame settings host) (version : SourceVersion)
    (hunit : Neutral unit.toList) (hlegal : ∀ statement ∈ statements, statement.Legal) :
    IsClassSource (Line.printAll unit (injectorLines settings version host statements)) := by
  have hnested := (reads_injectorLines hframe version hunit hlegal).scan
  have hfront : Braceless (Line.printAll unit (linesAbove settings host) ++ "public class " ++
      classHeader settings host).toList := by
    have hkeyword : Braceless "public class ".toList := by decide
    simp only [String.toList_append]
    exact ((braceless_linesAbove hframe).append hkeyword).append (braceless_classHeader hframe)
  have hbody : IsNested ("\n" ++
      Line.printAll unit (linesInside settings version host statements)).toList := by
    have hline : Neutral "\n".toList := ⟨by decide, by decide⟩
    rw [String.toList_append]
    exact (hline.reads_append (reads_linesInside hframe version hunit hlegal)).scan
  exact ⟨hnested, fun part hpart => braceDepth_nonneg hnested hpart, _, _, _,
    printAll_injectorLines version, hfront,
    fun part hpart => braceDepth_pos_of_opened hfront hbody hpart, braceDepth_eq_zero hnested⟩

end ViewBinding
