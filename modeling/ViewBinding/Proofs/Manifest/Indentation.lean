import Mathlib.Algebra.BigOperators.Group.List.Basic
import ViewBinding.Proofs.Injector.Indentation
import ViewBinding.Proofs.Manifest.Bindings

/-!
# How generated sources are laid out

The names in a valid manifest stay in one line, but a declared type may be broken around its
brackets, and is printed as it is. So a source has the lines of its frame and of its statements,
some of these broken inside a type, and all lines that do not begin there are indented by their
braces.

* `Injector.sum_textLines_statements`: the lines of the statements of an injector.
* `Manifest.lines_of_valid`: every source of a dry build.
* `Manifest.tornManifest_not_laid_out`: a source with more lines than its frame and its bindings.
-/

namespace ViewBinding

open Code Text

namespace Injector

/-- The line feeds in the types of the bound fields. -/
def typeBreaks (i : Injector) : Nat :=
  (i.fields.bound.values.map fun d => d.type.toList.count '\n').sum

/-- A field takes a line, and one more for each break in its type. A handler takes one line, or six
where listeners cannot be lambda expressions. -/
theorem sum_textLines_statements (i : Injector) (version : SourceVersion) :
    (i.statements.map (·.textLines version)).sum = i.fields.bound.size + i.typeBreaks +
      (if version.hasLambdas then 1 else 6) * i.handlers.bound.size := by
  have hone : (i.fields.bound.entries.map fun _ => 1).sum = i.fields.bound.size := by
    rw [List.map_const', List.sum_replicate_nat, Nat.mul_one, SortedMap.size]
  have hfields : ((i.statementsOf .bindView).map (·.textLines version)).sum =
      i.typeBreaks + i.fields.bound.size := by
    rw [statementsOf, List.map_map, typeBreaks, SortedMap.values, List.map_map, ← hone]
    exact List.sum_map_add ..
  have hhandlers : (i.statementsOf .onClick).map (·.textLines version) =
      List.replicate i.handlers.bound.size (if version.hasLambdas then 1 else 6) := by
    rw [statementsOf, List.map_map]
    exact List.map_const' ..
  rw [(i.statements_perm.map _).sum_nat, List.map_append, List.sum_append_nat, hfields, hhandlers,
    List.sum_replicate_nat, Nat.mul_comm, Nat.add_comm i.typeBreaks]

end Injector

namespace Manifest

variable {m : Manifest} {settings : Settings} {c : ClassEntry} {i : Injector}

/-- The lines of the source of a class. -/
theorem lines_of_generate (hm : m.Valid) (hs : settings.check = .ok ()) (hc : c ∈ m.classes)
    (hi : m.roster.get? c.name = some i) {version : SourceVersion} {g : Generated}
    (hg : i.generate settings version = .ok g) :
    segments '\n' g.contents.toList =
      (injectorLines settings version c.host i.statements).flatMap
        (Line.laidOut settings.indent) ++ [[]] ∧
    g.contents.toList.getLast? = some '\n' ∧
    g.contents.toList.count '\n' = frameLines settings c.host +
      (i.fields.bound.size + i.typeBreaks +
        (if version.hasLambdas then 1 else 6) * i.handlers.bound.size) ∧
    ∀ before line, HasLine g.contents.toList before line → line ≠ [] →
      Indented settings.indent before line ∨
        ∃ id d, i.field? id = some d ∧ EndsInType d.name d.type before := by
  have hhost := host_eq hm hc hi
  obtain ⟨-, hid⟩ := (i.exists_generate_iff settings version).mp ⟨g, hg⟩
  rw [hhost] at hid
  have hframe := legalFrame hm hs hc hid
  have hlegal := legal_statements hm hc hi
  obtain ⟨-, -, hcontents⟩ := Injector.generate_eq_ok hg
  have hunit : Injector.indentUnit settings = Line.blanks settings.indent := rfl
  rw [hcontents, hhost, hunit]
  refine ⟨Line.segments_printAll, Line.getLast?_printAll injectorLines_ne_nil, ?_,
    fun before line hline hne => ?_⟩
  · rw [count_injectorLines hframe version hlegal, i.sum_textLines_statements]
  · -- A line that is not indented begins inside the type of an assignment, so of a bound field.
    refine (indented_of_hasLine hframe version hlegal hline hne).imp_right ?_
    rintro ⟨name, type, id, hmem, hends⟩
    obtain ⟨d, hd, heq⟩ := Option.map_eq_some_iff.mp (Injector.assign_mem_statements.mp hmem)
    cases heq
    exact ⟨id, d, hd, hends⟩

/-- Every source in a dry build of a valid manifest has the lines of its frame and of the statements
of its class, and nothing behind the last of them. They are as many as the frame and the bindings
take: one for each field, with one more for each break in its type, and one for each handled view,
or six where listeners cannot be lambda expressions. Each line that is not empty is indented by the
braces around it, unless it begins inside the type of a bound field. -/
theorem lines_of_valid (hm : m.check = .ok ()) (hs : settings.check = .ok ()) :
    ∃ r : Report, checkManifest m settings = .ok r ∧ ∀ o ∈ r.rounds, ∀ g ∈ o.generated,
      ∃ c ∈ m.classes, ∃ i, c.name = g.owner ∧ m.roster.get? c.name = some i ∧
        i.statements.Perm (i.statementsOf .bindView ++ i.statementsOf .onClick) ∧
        segments '\n' g.contents.toList =
          (injectorLines settings m.version c.host i.statements).flatMap
            (Line.laidOut settings.indent) ++ [[]] ∧
        g.contents.toList.getLast? = some '\n' ∧
        g.contents.toList.count '\n' =
          (if settings.header then 1 else 0) + (if c.host.package.isEmpty then 0 else 2) + 5 +
            (i.fields.bound.size + i.typeBreaks +
              (if m.version.release.toNat < 8 then 6 else 1) * i.handlers.bound.size) ∧
        ∀ before line, HasLine g.contents.toList before line → line ≠ [] →
          Indented settings.indent before line ∨
            ∃ id d, i.field? id = some d ∧ EndsInType d.name d.type before := by
  refine ⟨m.report settings, checkManifest_eq hs, fun o ho g hg => ?_⟩
  obtain ⟨c, hc, i, howner, hget, hgenerate⟩ := exists_generate_of_mem ho hg
  obtain ⟨hall, hlast, hcount, hlines⟩ :=
    lines_of_generate (check_eq_ok_iff.mp hm) hs hc hget hgenerate
  refine ⟨c, hc, i, howner, hget, i.statements_perm, hall, hlast, ?_, hlines⟩
  rw [hcount, SourceVersion.ite_hasLambdas]
  rfl

/-- The lines of the injector of the grid. -/
def gridLines : List Line := [
  ⟨0, "// Generated by viewinject from app.Grid. Do not modify."⟩,
  ⟨0, "package app;"⟩,
  ⟨0, ""⟩,
  ⟨0, "public class Grid$$ViewInjector implements viewinject.runtime.ViewInject<app.Grid> \x7b"⟩,
  ⟨1, "@Override"⟩,
  ⟨1, "public void inject(final app.Grid host, Object source) \x7b"⟩,
  ⟨2, "host.cells = (app.Cell [] []) viewinject.runtime.ViewFinder.findViewById(source, 1);"⟩,
  ⟨2, "viewinject.runtime.ViewFinder.findViewById(source, 2)" ++
    ".setOnClickListener(new android.view.View.OnClickListener() \x7b"⟩,
  ⟨3, "@Override"⟩,
  ⟨3, "public void onClick(android.view.View view) \x7b"⟩,
  ⟨4, "host.tap();"⟩,
  ⟨3, "\x7d"⟩,
  ⟨2, "\x7d);"⟩,
  ⟨2, "viewinject.runtime.ViewFinder.findViewById(source, 3)" ++
    ".setOnClickListener(new android.view.View.OnClickListener() \x7b"⟩,
  ⟨3, "@Override"⟩,
  ⟨3, "public void onClick(android.view.View view) \x7b"⟩,
  ⟨4, "host.tap();"⟩,
  ⟨3, "\x7d"⟩,
  ⟨2, "\x7d);"⟩,
  ⟨1, "\x7d"⟩,
  ⟨0, "\x7d"⟩]

theorem lines_of_valid_gridManifest :
    gridManifest.check = .ok () ∧ ({} : Settings).check = .ok () ∧
    ∃ r : Report, checkManifest gridManifest {} = .ok r ∧
      r.rounds.map (·.generated.map (·.owner)) = [["app.Grid"], []] ∧
      ∀ o ∈ r.rounds, ∀ g ∈ o.generated,
        segments '\n' g.contents.toList = gridLines.flatMap (Line.laidOut 4) ++ [[]] ∧
        g.contents.toList.count '\n' = 1 + 2 + 5 + (1 + 0 + 6 * 2) ∧
        ∀ before line, HasLine g.contents.toList before line → line ≠ [] →
          Indented 4 before line := by
  have hcheck : gridManifest.check = .ok () := by decide +kernel
  have hbound : (gridManifest.roster.get? "app.Grid").map
      (fun i => (i.fields.bound.size, i.typeBreaks, i.handlers.bound.size)) = some (1, 0, 2) := by
    decide +kernel
  have htypes : ∀ i ∈ gridManifest.roster.get? "app.Grid", ∀ d ∈ i.fields.bound.values,
      OneLine d.type := by decide +kernel
  have hprinted : ∀ i ∈ gridManifest.roster.get? "app.Grid",
      injectorLines {} gridManifest.version (.ofName "app.Grid") i.statements = gridLines := by
    decide +kernel
  obtain ⟨r, hr, hlines⟩ := lines_of_valid hcheck Settings.check_default
  have hreport : r = gridManifest.report {} :=
    Except.ok.inj (hr.symm.trans (checkManifest_eq Settings.check_default))
  have howners : r.rounds.map (·.generated.map (·.owner)) = [["app.Grid"], []] := by
    rw [hreport]
    decide +kernel
  refine ⟨hcheck, Settings.check_default, r, hr, howners, fun o ho g hg => ?_⟩
  obtain ⟨c, hc, i, -, hget, -, hall, -, hcount, hlayout⟩ := hlines o ho g hg
  obtain rfl := List.mem_singleton.mp hc
  have hsizes : (i.fields.bound.size, i.typeBreaks, i.handlers.bound.size) = (1, 0, 2) := by
    rw [hget] at hbound
    exact Option.some.inj hbound
  obtain ⟨hfields, hsizes⟩ := Prod.mk.inj hsizes
  obtain ⟨hbreaks, hhandlers⟩ := Prod.mk.inj hsizes
  have hversion : gridManifest.version.release.toNat < 8 := by decide
  refine ⟨?_, ?_, fun before line hline hne => ?_⟩
  · rw [hall, ← hprinted i hget]
    rfl
  · rw [hcount, hfields, hbreaks, hhandlers, if_pos hversion]
    rfl
  · rcases hlayout before line hline hne with hindented | ⟨id, d, hd, hends⟩
    · exact hindented
    · exact absurd hends (not_endsInType (htypes i hget d (SortedMap.mem_values_iff.mpr ⟨id, hd⟩)))

/-- A class with a field whose type is broken before its brackets. -/
def tornManifest : Manifest where
  classes := [
    { name := "Grid"
      members := [{ kind := .field, name := "cells", type := "Cell\n[]", bindView := some 1 }] }]

/-- The first line of its injector. -/
def tornComment : String :=
  "// Generated by viewinject from Grid. Do not modify.
"

/-- The line that opens the class. -/
def tornClass : String :=
  "public class Grid$$ViewInjector implements viewinject.runtime.ViewInject<Grid> \x7b
"

/-- The lines from there to the break. -/
def tornMethod : String :=
  "    @Override
    public void inject(final Grid host, Object source) \x7b
        host.cells = (Cell
"

/-- All that stands above the break. -/
def tornFront : String :=
  tornComment ++ (tornClass ++ tornMethod)

/-- The line behind the break. -/
def tornLine : String :=
  "[]) viewinject.runtime.ViewFinder.findViewById(source, 1);"

/-- The text below. -/
def tornEnd : String :=
  "    \x7d
\x7d
"

-- The characters of a literal are read off it once: they are slow to compute from its bytes.
theorem toList_tornComment :
    tornComment.toList.count '\n' = 1 ∧ braceDepth tornComment.toList = 0 := by
  obtain ⟨cs, hcs, h⟩ : ∃ cs, tornComment.toList = cs ∧ cs.count '\n' = 1 ∧ braceDepth cs = 0 :=
    ⟨_, String.toList_ofList, by decide +kernel⟩
  rwa [hcs]

theorem toList_tornClass :
    tornClass.toList.count '\n' = 1 ∧ braceDepth tornClass.toList = 1 := by
  obtain ⟨cs, hcs, h⟩ : ∃ cs, tornClass.toList = cs ∧ cs.count '\n' = 1 ∧ braceDepth cs = 1 :=
    ⟨_, String.toList_ofList, by decide +kernel⟩
  rwa [hcs]

theorem toList_tornMethod : tornMethod.toList.getLast? = some '\n' ∧
    tornMethod.toList.count '\n' = 3 ∧ braceDepth tornMethod.toList = 1 := by
  obtain ⟨cs, hcs, h⟩ : ∃ cs, tornMethod.toList = cs ∧
      cs.getLast? = some '\n' ∧ cs.count '\n' = 3 ∧ braceDepth cs = 1 :=
    ⟨_, String.toList_ofList, by decide +kernel⟩
  rwa [hcs]

theorem toList_tornFront : tornFront.toList.getLast? = some '\n' ∧
    tornFront.toList.count '\n' = 5 ∧ braceDepth tornFront.toList = 2 := by
  obtain ⟨hcount₁, hdepth₁⟩ := toList_tornComment
  obtain ⟨hcount₂, hdepth₂⟩ := toList_tornClass
  obtain ⟨hlast, hcount₃, hdepth₃⟩ := toList_tornMethod
  rw [tornFront, String.toList_append, String.toList_append]
  refine ⟨?_, ?_, ?_⟩
  · rw [List.getLast?_append, List.getLast?_append, hlast]
    rfl
  · rw [List.count_append, List.count_append, hcount₁, hcount₂, hcount₃]
  · rw [braceDepth_append, braceDepth_append, hdepth₁, hdepth₂, hdepth₃]
    rfl

theorem toList_tornLine : tornLine.toList.head? = some '[' ∧ '\n' ∉ tornLine.toList := by
  obtain ⟨cs, hcs, h⟩ : ∃ cs, tornLine.toList = cs ∧ cs.head? = some '[' ∧ '\n' ∉ cs :=
    ⟨_, String.toList_ofList, by decide +kernel⟩
  rwa [hcs]

theorem hasLine_tornLine :
    HasLine (tornFront ++ (tornLine ++ ("\n" ++ tornEnd))).toList tornFront.toList
      tornLine.toList := by
  refine ⟨fun c hc => ?_, ⟨tornEnd.toList, ?_⟩, toList_tornLine.2⟩
  · rw [toList_tornFront.1] at hc
    exact (Option.some.inj hc).symm
  · rw [String.toList_append, String.toList_append, String.toList_append]
    rfl

/-- The line begins at the margin, inside two open braces. -/
theorem not_indented_tornLine : ¬ Indented 4 tornFront.toList tornLine.toList := by
  rintro ⟨depth, c, rest, hline, -, hdepth⟩
  cases depth with
  | zero =>
    rw [toList_tornFront.2.2] at hdepth
    split at hdepth <;> omega
  | succ depth =>
    have hhead := toList_tornLine.1
    rw [hline, Nat.mul_succ, List.replicate_succ, List.cons_append, List.head?_cons] at hhead
    exact absurd hhead (by decide)

/-- A break in a type makes a line that no statement accounts for, and that is not indented. -/
theorem tornManifest_not_laid_out :
    tornManifest.check = .ok () ∧ ({} : Settings).check = .ok () ∧
    ∃ r : Report, checkManifest tornManifest {} = .ok r ∧
      ∃ o ∈ r.rounds, ∃ g ∈ o.generated, ∃ c ∈ tornManifest.classes, ∃ i,
        c.name = g.owner ∧ tornManifest.roster.get? c.name = some i ∧
        g.contents.toList.count '\n' ≠
          1 + (if c.host.package.isEmpty then 0 else 2) + 5 +
            (i.fields.bound.size + 1 * i.handlers.bound.size) ∧
        ∃ before line, HasLine g.contents.toList before line ∧ line ≠ [] ∧
          ¬ Indented 4 before line := by
  have hcheck : tornManifest.check = .ok () := by decide +kernel
  have hsource : ∃ o ∈ (tornManifest.report {}).rounds, ∃ g ∈ o.generated, g.owner = "Grid" ∧
      g.contents = tornFront ++ (tornLine ++ ("\n" ++ tornEnd)) := by decide +kernel
  have hbound : (tornManifest.roster.get? "Grid").map
      (fun i => (i.fields.bound.size, i.handlers.bound.size)) = some (1, 0) := by decide +kernel
  have hcount : (tornFront ++ (tornLine ++ ("\n" ++ tornEnd))).toList.count '\n' = 8 := by
    have hend : ("\n" ++ tornEnd).toList.count '\n' = 3 := by decide +kernel
    rw [String.toList_append, String.toList_append, List.count_append, List.count_append,
      toList_tornFront.2.1, List.count_eq_zero_of_not_mem toList_tornLine.2, hend]
  have hline : tornLine.toList ≠ [] := fun hnil => by
    have hhead := toList_tornLine.1
    rw [hnil] at hhead
    cases hhead
  obtain ⟨o, ho, g, hg, howner, hcontents⟩ := hsource
  obtain ⟨i, hget, hsizes⟩ := Option.map_eq_some_iff.mp hbound
  obtain ⟨hfields, hhandlers⟩ := Prod.mk.inj hsizes
  refine ⟨hcheck, Settings.check_default, _, checkManifest_eq Settings.check_default, o, ho, g, hg,
    _, List.mem_singleton_self _, i, howner.symm, hget, ?_, tornFront.toList, tornLine.toList,
    ?_, hline, not_indented_tornLine⟩
  · rw [hcontents, hcount, hfields, hhandlers]
    decide
  · rw [hcontents]
    exact hasLine_tornLine

end Manifest

end ViewBinding
