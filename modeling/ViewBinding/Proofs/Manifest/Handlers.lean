import ViewBinding.Proofs.Java.ClassTypes
import ViewBinding.Proofs.Manifest.Completeness
import ViewBinding.Proofs.Placement.Rules

/-!
# Handlers in valid manifests

Validation lets a type be written with blanks around it, the placement of a handler does not. So a
handler that a manifest lists in good order is placed exactly if the type of its parameter, should
it take one, is written without such blanks.

* `MemberEntry.placement_of_handler`: where the types that validation accepts are class types, and
  which handlers are placed.
-/

namespace ViewBinding

open Java Text

namespace MemberEntry

/-- A method that can be reached, names the views whose clicks it handles, and takes nothing or a
view. -/
structure IsHandler (m : MemberEntry) : Prop where
  kind : m.kind = .method
  views : ∃ ids, m.onClick = some ids ∧ ids ≠ [] ∧ ViewId.absent ∉ ids
  notPrivate : .privateAccess ∉ m.modifiers
  notStatic : .static ∉ m.modifiers
  params : m.params = [] ∨ ∃ type, m.params = [type] ∧ IsViewType type

variable {m : MemberEntry}

/-- A handler keeps all rules but, perhaps, the one on the type of its parameter. -/
theorem IsHandler.allKept_iff (h : m.IsHandler) (host : HostClass) (source : Option String) :
    AllKept (Placement.rules .onClick (m.declaration host source)) ↔
      ∀ type ∈ m.params, isClassType type = true := by
  have hreach : AllKept (Placement.reachRules .onClick (m.declaration host source)) := by
    simp only [Placement.reachRules, allKept_cons, allKept_nil, and_true]
    exact ⟨h.kind, ⟨host, rfl⟩, fun hmem => h.notPrivate (Modifier.mem_setOf.mp hmem),
      fun hmem => h.notStatic (Modifier.mem_setOf.mp hmem)⟩
  have hview : AllKept (Placement.viewRules .onClick (m.declaration host source)) := by
    obtain ⟨ids, hids, hne, habsent⟩ := h.views
    have hfound : (m.declaration host source).annotationOf? .onClick = some (.onClick ids) := by
      rw [annotationOf?_declaration, hids]
      rfl
    simp only [Placement.viewRules, allKept_cons, allKept_nil, and_true]
    refine ⟨⟨_, hfound⟩, fun found hf => ?_⟩
    rw [hfound] at hf
    cases hf
    exact ⟨hne, habsent⟩
  -- What a handler is asked for leaves one rule open: how the type of its parameter is written.
  have hparams : AllKept [Placement.arityRule (m.declaration host source),
      Placement.parameterRule (m.declaration host source)] ↔
      ∀ type ∈ m.params, isClassType type = true := by
    simp only [allKept_cons, allKept_nil, and_true, Placement.arityRule, Placement.parameterRule,
      declaration]
    rcases h.params with hnil | ⟨type, hone, -⟩
    · simp [hnil]
    · simp [hone]
  rw [Placement.rules, allKept_append, allKept_append, hparams]
  exact ⟨fun hall => hall.1.2, fun hall => ⟨⟨hreach, hall⟩, hview⟩⟩

/-- A handler that validation has no objection to is placed exactly if there are no blanks around
the type of its parameter: of the types that validation accepts, class types are the view types
without such blanks. -/
theorem placement_of_handler (h : m.IsHandler) (hvalid : m.problems.messages = [])
    (host : HostClass) (source : Option String) :
    (∀ type, checkType type = .ok () →
      (isClassType type = true ↔ IsViewType type ∧ trim type.toList = type.toList)) ∧
    ((∃ place, (m.declaration host source).placeAs .onClick = .ok place) ↔
      ∀ type ∈ m.params, trim type.toList = type.toList) := by
  refine ⟨fun type => isClassType_iff_isViewType, ?_⟩
  rw [Declaration.decides_placeAs.ok]
  show AllKept (Placement.rules .onClick _) ↔ _
  rw [h.allKept_iff]
  refine forall₂_congr fun type hmem => ?_
  have hview : IsViewType type := by
    rcases h.params with hnil | ⟨only, hone, hview⟩
    · rw [hnil] at hmem
      cases hmem
    · rw [hone, List.mem_singleton] at hmem
      exact hmem ▸ hview
  have hchecked := ((problems_eq_nil_iff.mp hvalid).params type hmem).2
  rw [isClassType_iff_isViewType hchecked, and_iff_right hview]

/-- A handler with one parameter. -/
def tapHandler (type : String) : MemberEntry where
  kind := .method
  name := "onTap"
  type := "void"
  params := [type]
  onClick := some [3]

theorem isHandler_tapHandler {type : String} (h : IsViewType type) :
    (tapHandler type).IsHandler where
  kind := rfl
  views := ⟨[3], rfl, List.cons_ne_nil _ _, by decide⟩
  notPrivate := List.not_mem_nil
  notStatic := List.not_mem_nil
  params := .inr ⟨type, rfl, h⟩

theorem placement_of_tapHandler :
    (tapHandler "app.Label").IsHandler ∧ (tapHandler "app.Label").problems.messages = [] ∧
      ∃ place, ((tapHandler "app.Label").declaration (.ofName "app.Main") none).placeAs .onClick =
        .ok place := by
  have hhandler : (tapHandler "app.Label").IsHandler := isHandler_tapHandler (by decide +kernel)
  have hvalid : (tapHandler "app.Label").problems.messages = [] := by decide +kernel
  refine ⟨hhandler, hvalid, (placement_of_handler hhandler hvalid _ _).2.mpr ?_⟩
  decide +kernel

end MemberEntry

namespace Manifest

/-- A manifest with one handler, whose parameter is written with a blank in front. -/
def spaced : Manifest where
  classes := [{ name := "app.Main", members := [.tapHandler " Label"] }]

/-- Validation accepts it, and its handler is refused for the type of a view. -/
theorem spaced_refused :
    spaced.check = .ok () ∧ (MemberEntry.tapHandler " Label").IsHandler ∧
      checkType " Label" = .ok () ∧ IsViewType " Label" ∧ isClassType " Label" = false ∧
      ∀ d ∈ spaced.declarations,
        d.placeAs .onClick = .error (.handlerParameter "onTap" " Label") := by
  have hview : IsViewType " Label" := by decide +kernel
  have hchecked : checkType " Label" = .ok () :=
    checkType_eq_ok_iff.mpr (.inr (by decide +kernel))
  refine ⟨?_, MemberEntry.isHandler_tapHandler hview, hchecked, hview, by decide +kernel, ?_⟩
  · rw [check, Problems.result_eq_ok_iff]
    decide +kernel
  · intro d hd
    obtain rfl := List.mem_singleton.mp hd
    rfl

end Manifest

end ViewBinding
