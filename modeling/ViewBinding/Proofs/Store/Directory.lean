import ViewBinding.Proofs.Java.Names
import ViewBinding.Store.Directory

/-!
# Where a directory keeps its sources

The source of a legal name lies below the root, with one directory for each segment of the package
and a file named after the class. The way there gives the name back.

* `Path.toList_foldl_push`: steps that go down are joined with slashes.
* `Path.steps_append_gap`: the steps of a path that is extended.
* `OutputDirectory.toList_pathFor`: the way to the source of a legal name.
* `OutputDirectory.pathFor_inj`: no two legal names have one file.
-/

namespace ViewBinding

open Java Text

namespace Path

theorem text_inj {p q : Path} : p.text = q.text ↔ p = q := by
  obtain ⟨text⟩ := p
  obtain ⟨text'⟩ := q
  rw [Path.mk.injEq]

/-- A step that goes down to some name. -/
def IsStep (step : String) : Prop :=
  step.toList ≠ [] ∧ '/' ∉ step.toList

/-- What has to stand between a path and its next step. -/
def gap (cs : List Char) : List Char :=
  if isOpenEnded cs then [] else ['/']

theorem IsStep.toList_push {step : String} (h : IsStep step) (p : Path) :
    (p.push step).text.toList = p.text.toList ++ gap p.text.toList ++ step.toList := by
  refine push_of_relative ?_
  obtain ⟨c, cs, hstep⟩ := List.exists_cons_of_ne_nil h.1
  have hne : c ≠ '/' := fun heq => h.2 (by simp [hstep, heq])
  simp [startsAtRoot, hstep, hne]

/-- After a step that goes down, the next one needs a slash. -/
theorem IsStep.gap_append {step : String} (h : IsStep step) (cs : List Char) :
    gap (cs ++ step.toList) = ['/'] := by
  obtain ⟨front, c, hstep⟩ := List.eq_nil_or_concat step.toList |>.resolve_left h.1
  have hne : c ≠ '/' := fun heq => h.2 (by simp [hstep, heq])
  simp [gap, isOpenEnded, hstep, hne]

/-- Steps that go down are joined with slashes. -/
theorem toList_foldl_push (p : Path) {steps : List String} {last : String}
    (h : ∀ step ∈ steps ++ [last], IsStep step) :
    ((steps.foldl push p).push last).text.toList =
      p.text.toList ++ gap p.text.toList ++ joinWith '/' ((steps ++ [last]).map String.toList) := by
  induction steps generalizing p with
  | nil => exact (h last (by simp)).toList_push p
  | cons step steps ih =>
    have hstep := h step (by simp)
    rw [List.foldl_cons, ih (p.push step) fun s hs => h s (List.mem_cons_of_mem _ hs),
      hstep.toList_push, hstep.gap_append, List.cons_append, List.map_cons,
      joinWith_cons_of_ne_nil (by simp), List.append_assoc, List.append_assoc _ step.toList,
      List.singleton_append]

/-! ## Steps of extended paths -/

theorem steps_append_slash (cs rest : List Char) :
    steps (cs ++ '/' :: rest) = steps cs ++ steps rest := by
  rw [steps, segments_append_sep, List.filter_append, steps, steps]

theorem steps_joinWith {pieces : List (List Char)} (hne : pieces ≠ [])
    (h : ∀ piece ∈ pieces, '/' ∉ piece ∧ isIdle piece = false) :
    steps (joinWith '/' pieces) = pieces := by
  rw [steps, segments_joinWith hne fun piece hpiece => (h piece hpiece).1, List.filter_eq_self]
  intro piece hpiece
  rw [(h piece hpiece).2]
  rfl

/-- A path that is extended by pieces leads through its own steps first, and then through them. -/
theorem steps_append_gap (cs : List Char) {pieces : List (List Char)} (hne : pieces ≠ [])
    (h : ∀ piece ∈ pieces, '/' ∉ piece ∧ isIdle piece = false) :
    steps (cs ++ gap cs ++ joinWith '/' pieces) = steps cs ++ pieces := by
  rcases List.eq_nil_or_concat cs with rfl | ⟨front, c, hcs⟩
  · exact steps_joinWith hne h
  · rw [List.concat_eq_append] at hcs
    subst hcs
    by_cases hc : c = '/'
    · subst hc
      have hgap : gap (front ++ ['/']) = [] := by simp [gap, isOpenEnded]
      have hfront : steps (front ++ ['/']) = steps front := by
        rw [steps_append_slash]
        exact List.append_nil _
      rw [hgap, hfront, List.append_nil, List.append_assoc, List.singleton_append,
        steps_append_slash, steps_joinWith hne h]
    · have hgap : gap (front ++ [c]) = ['/'] := by simp [gap, isOpenEnded, hc]
      rw [hgap, List.append_assoc _ ['/'], List.singleton_append, steps_append_slash,
        steps_joinWith hne h]

end Path

namespace OutputDirectory

variable {name name' : String}

/-- The last segment of a legal name names the file, those before it the directories. -/
theorem exists_segments (h : IsQualifiedName name) :
    ∃ before last, segments '.' name.toList = before ++ [last] ∧
      packageSteps name = before.map String.ofList ∧
      fileName name = String.ofList last ++ ".java" := by
  obtain ⟨before, last, hs⟩ := List.eq_nil_or_concat (segments '.' name.toList) |>.resolve_left
    (segments_ne_nil '.' name.toList)
  rw [List.concat_eq_append] at hs
  refine ⟨before, last, hs, ?_⟩
  have hlegal := isQualifiedName_iff.mp h
  rw [hs] at hlegal
  unfold packageSteps fileName splitName
  rw [splitLast?_of_segments hs]
  by_cases hb : before = []
  · have hname : name.toList = last := by
      rw [← joinWith_segments '.' name.toList, hs, hb]
      rfl
    simp [hb, hname, segments]
  · have hdots : ∀ piece ∈ before, '.' ∉ piece := fun piece hpiece =>
      not_mem_of_mem_segments (hs ▸ List.mem_append_left _ hpiece)
    have hfull : ∀ piece ∈ before, (!piece.isEmpty) = true := fun piece hpiece => by
      have hid := hlegal piece (List.mem_append_left _ hpiece)
      simpa using hid.toList_ne_nil
    rw [if_neg hb, Option.getD_some, segments_joinWith hb hdots, List.filter_eq_self.mpr hfull]
    exact ⟨rfl, rfl⟩

/-- An identifier is a step, also with an extension. -/
theorem isStep_of_isIdentifier {text : String} (h : IsIdentifier text) :
    Path.IsStep text ∧ Path.IsStep (text ++ ".java") := by
  have hslash := h.not_mem isIdentifierPart_slash
  refine ⟨⟨h.toList_ne_nil, hslash⟩, ?_, ?_⟩
  · simp
  · simp [hslash]

/-- All steps to the source of a legal name go down. -/
theorem isStep_of_mem_steps (h : IsQualifiedName name) {step : String}
    (hstep : step ∈ packageSteps name ++ [fileName name]) : Path.IsStep step := by
  obtain ⟨before, last, hs, hsteps, hfile⟩ := exists_segments h
  have hlegal := isQualifiedName_iff.mp h
  rw [hs] at hlegal
  rw [hsteps, hfile, List.mem_append, List.mem_singleton] at hstep
  rcases hstep with hstep | rfl
  · obtain ⟨piece, hpiece, rfl⟩ := List.mem_map.mp hstep
    exact (isStep_of_isIdentifier (hlegal piece (List.mem_append_left _ hpiece))).1
  · exact (isStep_of_isIdentifier (hlegal last (by simp))).2

/-- The way to the source of a legal name. -/
theorem toList_pathFor (d : OutputDirectory) (h : IsQualifiedName name) :
    (d.pathFor name).text.toList = d.root.text.toList ++ Path.gap d.root.text.toList ++
      joinWith '/' ((packageSteps name ++ [fileName name]).map String.toList) :=
  Path.toList_foldl_push d.root fun _ hstep => isStep_of_mem_steps h hstep

/-- The steps to the source of a legal name give the name back. -/
theorem name_eq_of_steps_eq (h : IsQualifiedName name) (h' : IsQualifiedName name')
    (heq : packageSteps name ++ [fileName name] = packageSteps name' ++ [fileName name']) :
    name = name' := by
  obtain ⟨before, last, hs, hsteps, hfile⟩ := exists_segments h
  obtain ⟨before', last', hs', hsteps', hfile'⟩ := exists_segments h'
  obtain ⟨hpackage, hclass⟩ := List.append_inj' heq rfl
  rw [hsteps, hsteps', List.map_inj_right fun a b => String.ofList_inj.mp] at hpackage
  rw [hfile, hfile', List.singleton_inj, String.append_left_inj, String.ofList_inj] at hclass
  rw [← String.toList_inj, ← joinWith_segments '.' name.toList,
    ← joinWith_segments '.' name'.toList, hs, hs', hpackage, hclass]

/-- No two legal names have one file. -/
theorem pathFor_inj (d : OutputDirectory) (h : IsQualifiedName name) (h' : IsQualifiedName name') :
    d.pathFor name = d.pathFor name' ↔ name = name' := by
  refine ⟨fun heq => name_eq_of_steps_eq h h' ?_, fun heq => by rw [heq]⟩
  have hlist := congrArg (fun p : Path => p.text.toList) heq
  simp only [toList_pathFor d h, toList_pathFor d h', List.append_cancel_left_eq] at hlist
  have hpieces := congrArg (segments '/') hlist
  have hslash {name : String} (h : IsQualifiedName name) :
      ∀ piece ∈ (packageSteps name ++ [fileName name]).map String.toList, '/' ∉ piece := by
    intro piece hpiece
    obtain ⟨step, hstep, rfl⟩ := List.mem_map.mp hpiece
    exact (isStep_of_mem_steps h hstep).2
  rw [segments_joinWith (by simp) (hslash h), segments_joinWith (by simp) (hslash h'),
    List.map_inj_right fun a b => String.toList_inj.mp] at hpieces
  exact hpieces

end OutputDirectory

end ViewBinding
