import Mathlib.Tactic.Tauto
import ViewBinding.Proofs.Placement

/-!
# The rules of placement

What an annotation asks of the declaration it stands on is a list of rules. A declaration that
keeps all of them has a place, and any other is refused for the first rule that it breaks.

* `Decides.bind`: checks made one after the other decide their rules one after the other.
* `Declaration.decides_placeAs`: the rules that the checks of a placement try.
* `Declaration.placement_rules`: a method is placed by the rules of `OnClick`, and a field by those
  of `BindView` exactly if it has no stray parameter, which only a method should be asked about.
-/

namespace ViewBinding

/-- What is asked of a declaration, and the reason given to one that breaks the rule. -/
structure PlacementRule where
  kept : Prop
  reason : Misplacement

/-- The reason belongs to the first rule that is broken. -/
inductive FirstBroken : List PlacementRule → Misplacement → Prop
  | here {rule : PlacementRule} {rest : List PlacementRule} (h : ¬ rule.kept) :
    FirstBroken (rule :: rest) rule.reason
  | later {rule : PlacementRule} {rest : List PlacementRule} {reason : Misplacement}
    (h : rule.kept) (hrest : FirstBroken rest reason) : FirstBroken (rule :: rest) reason

/-- All rules are kept. -/
def AllKept (rules : List PlacementRule) : Prop :=
  ∀ rule ∈ rules, rule.kept

/-- A check succeeds if all rules are kept, and else fails for the first that is broken. -/
structure Decides {α : Type} (x : Except Misplacement α) (rules : List PlacementRule) : Prop where
  ok : (∃ a, x = .ok a) ↔ AllKept rules
  error : ∀ reason, x = .error reason ↔ FirstBroken rules reason

/-! ## Lists of rules -/

section

variable {rule : PlacementRule} {xs ys : List PlacementRule} {reason : Misplacement}

theorem allKept_nil : AllKept [] := by simp [AllKept]

theorem allKept_cons : AllKept (rule :: xs) ↔ rule.kept ∧ AllKept xs := by simp [AllKept]

theorem allKept_append : AllKept (xs ++ ys) ↔ AllKept xs ∧ AllKept ys := by
  simp [AllKept, or_imp, forall_and]

theorem not_firstBroken_nil : ¬ FirstBroken [] reason := by
  rintro ⟨⟩

theorem firstBroken_cons :
    FirstBroken (rule :: xs) reason ↔
      ¬ rule.kept ∧ reason = rule.reason ∨ rule.kept ∧ FirstBroken xs reason := by
  constructor
  · rintro (h | ⟨h, hrest⟩)
    · exact .inl ⟨h, rfl⟩
    · exact .inr ⟨h, hrest⟩
  · rintro (⟨h, rfl⟩ | ⟨h, hrest⟩)
    · exact .here h
    · exact .later h hrest

/-- The rules of the second list matter once those of the first are kept. -/
theorem firstBroken_append :
    FirstBroken (xs ++ ys) reason ↔ FirstBroken xs reason ∨ AllKept xs ∧ FirstBroken ys reason := by
  induction xs with
  | nil => simp [not_firstBroken_nil, allKept_nil]
  | cons rule xs ih =>
    rw [List.cons_append, firstBroken_cons, firstBroken_cons, allKept_cons, ih]
    tauto

/-- Only the reason of a rule is ever given. -/
theorem FirstBroken.exists_rule (h : FirstBroken xs reason) :
    ∃ rule ∈ xs, rule.reason = reason := by
  induction h with
  | here h => exact ⟨_, List.mem_cons_self, rfl⟩
  | later h hrest ih =>
    obtain ⟨rule, hrule, hreason⟩ := ih
    exact ⟨rule, List.mem_cons_of_mem _ hrule, hreason⟩

/-- A rule that is kept wherever those before it are can be left out. -/
theorem allKept_omit (h : AllKept xs → rule.kept) :
    AllKept (xs ++ [rule] ++ ys) ↔ AllKept (xs ++ ys) := by
  simp only [allKept_append, allKept_cons, allKept_nil]
  tauto

theorem firstBroken_omit (h : AllKept xs → rule.kept) :
    FirstBroken (xs ++ [rule] ++ ys) reason ↔ FirstBroken (xs ++ ys) reason := by
  simp only [firstBroken_append, firstBroken_cons, not_firstBroken_nil, allKept_append,
    allKept_cons, allKept_nil]
  tauto

end

/-! ## Checks -/

theorem except_bind_eq_error {ε α β : Type} {x : Except ε α} {f : α → Except ε β} {e : ε} :
    x >>= f = .error e ↔ x = .error e ∨ ∃ a, x = .ok a ∧ f a = .error e := by
  cases x with
  | error e' =>
    constructor
    · intro h; cases h; exact .inl rfl
    · rintro (h | ⟨a, h, -⟩) <;> cases h; rfl
  | ok a =>
    constructor
    · intro h; exact .inr ⟨a, rfl, h⟩
    · rintro (h | ⟨a', h, hf⟩) <;> cases h; exact hf

namespace Decides

variable {α β : Type} {x : Except Misplacement α} {f : α → Except Misplacement β}
  {rules more : List PlacementRule}

theorem pure (a : α) : Decides (.ok a) [] where
  ok := ⟨fun _ => allKept_nil, fun _ => ⟨a, rfl⟩⟩
  error reason := by simp [not_firstBroken_nil]

/-- A check of one rule. -/
theorem single {rule : PlacementRule} (hok : rule.kept → ∃ a, x = .ok a)
    (herror : ¬ rule.kept → x = .error rule.reason) : Decides x [rule] := by
  by_cases h : rule.kept
  · obtain ⟨a, rfl⟩ := hok h
    refine ⟨?_, fun reason => ?_⟩
    · simp [allKept_cons, allKept_nil, h]
    · simp [firstBroken_cons, not_firstBroken_nil, h]
  · rw [herror h]
    refine ⟨?_, fun reason => ?_⟩
    · simp [allKept_cons, h]
    · simp [firstBroken_cons, h, eq_comm]

/-- A rule tried before a check. -/
theorem guard {rule : PlacementRule} {p : Prop} [Decidable p] (hrule : rule.kept ↔ ¬ p)
    (hx : Decides x rules) : Decides (if p then .error rule.reason else x) (rule :: rules) := by
  by_cases h : p
  · have hbroken : ¬ rule.kept := fun hk => hrule.mp hk h
    rw [if_pos h]
    refine ⟨?_, fun reason => ?_⟩
    · simp [allKept_cons, hbroken]
    · simp [firstBroken_cons, hbroken, eq_comm]
  · have hkept : rule.kept := hrule.mpr h
    rw [if_neg h]
    refine ⟨?_, fun reason => ?_⟩
    · rw [hx.ok, allKept_cons, and_iff_right hkept]
    · simp [hx.error, firstBroken_cons, hkept]

/-- Checks made one after the other decide their rules one after the other. -/
theorem bind (hx : Decides x rules) (hf : ∀ a, x = .ok a → Decides (f a) more) :
    Decides (x >>= f) (rules ++ more) where
  ok := by
    simp only [except_bind_eq_ok, allKept_append, ← hx.ok]
    constructor
    · rintro ⟨b, a, ha, hb⟩
      exact ⟨⟨a, ha⟩, (hf a ha).ok.mp ⟨b, hb⟩⟩
    · rintro ⟨⟨a, ha⟩, hmore⟩
      obtain ⟨b, hb⟩ := (hf a ha).ok.mpr hmore
      exact ⟨b, a, ha, hb⟩
  error reason := by
    rw [except_bind_eq_error, firstBroken_append, ← hx.ok, hx.error]
    refine or_congr_right ?_
    constructor
    · rintro ⟨a, ha, he⟩
      exact ⟨⟨a, ha⟩, ((hf a ha).error reason).mp he⟩
    · rintro ⟨⟨a, ha⟩, hmore⟩
      exact ⟨a, ha, ((hf a ha).error reason).mpr hmore⟩

end Decides

/-! ## The rules of both annotations -/

/-- The annotation names views: one that is not absent, or some of which none is. -/
def Annotation.NamesViews : Annotation → Prop
  | bindView id => id ≠ ViewId.absent
  | onClick ids => ids ≠ [] ∧ ViewId.absent ∉ ids

theorem Annotation.namesViews_iff {a : Annotation} :
    a.NamesViews ↔ a.ids ≠ [] ∧ ViewId.absent ∉ a.ids := by
  cases a with
  | bindView id => simp [NamesViews, ids, eq_comm]
  | onClick ids => rfl

/-- The reason speaks of the parameters of a handler. -/
def Misplacement.AboutParameters : Misplacement → Prop
  | handlerArity _ _ | handlerParameter _ _ => True
  | _ => False

namespace Placement

/-- The annotation stands on the kind of declaration that it is for. -/
def roleRule (mark : AnnotationKind) (d : Declaration) : PlacementRule where
  kept := d.kind = mark.target
  reason := match mark with
    | .bindView => .nonField d.kind d.name
    | .onClick => .nonMethod d.kind d.name

/-- There is a class around the declaration. -/
def ownerRule (d : Declaration) : PlacementRule where
  kept := ∃ host, d.owner = some host
  reason := .noEnclosingClass d.kind d.name

/-- The declaration does without a modifier. -/
def accessRule (mark : AnnotationKind) (modifier : Modifier) (d : Declaration) :
    PlacementRule where
  kept := modifier ∉ d.modifiers
  reason := .inaccessible mark d.kind d.name modifier

/-- There is at most one parameter. -/
def arityRule (d : Declaration) : PlacementRule where
  kept := d.params.length ≤ 1
  reason := .handlerArity d.name d.params.length

/-- The first parameter, if there is one, is of a class type. -/
def parameterRule (d : Declaration) : PlacementRule where
  kept := ∀ type ∈ d.params.head?, Java.isClassType type = true
  reason := .handlerParameter d.name (d.params.headD "")

/-- The declaration carries the annotation. -/
def markRule (mark : AnnotationKind) (d : Declaration) : PlacementRule where
  kept := ∃ found, d.annotationOf? mark = some found
  reason := .unmarked mark d.name

/-- The first such annotation names views. -/
def idsRule (mark : AnnotationKind) (d : Declaration) : PlacementRule where
  kept := ∀ found, d.annotationOf? mark = some found → found.NamesViews
  reason := .missingIdentifier mark d.name

/-- The declaration is of the right kind, and its injector can reach it. -/
def reachRules (mark : AnnotationKind) (d : Declaration) : List PlacementRule :=
  [roleRule mark d, ownerRule d, accessRule mark .privateAccess d, accessRule mark .static d]

/-- The annotation is there and names views. -/
def viewRules (mark : AnnotationKind) (d : Declaration) : List PlacementRule :=
  [markRule mark d, idsRule mark d]

/-- What an annotation asks of a declaration, in order. Parameters matter to a handler only. -/
def rules : AnnotationKind → Declaration → List PlacementRule
  | .bindView, d => reachRules .bindView d ++ viewRules .bindView d
  | .onClick, d => reachRules .onClick d ++ [arityRule d, parameterRule d] ++ viewRules .onClick d

/-- The rules that are tried. A field, too, is asked about its first parameter. -/
def triedRules : AnnotationKind → Declaration → List PlacementRule
  | .bindView, d => reachRules .bindView d ++ [parameterRule d] ++ viewRules .bindView d
  | .onClick, d => rules .onClick d

variable {mark : AnnotationKind} {d : Declaration}

theorem decides_checkRole : Decides (checkRole mark d) [roleRule mark d] := by
  refine Decides.single (fun h => ⟨mark.table, checkRole_eq_ok_iff.mpr ⟨rfl, h⟩⟩) fun h => ?_
  cases mark <;> cases hk : d.kind <;>
    simp [roleRule, AnnotationKind.target, hk] at h <;>
    simp [checkRole, hk, DeclarationKind.role, roleRule]

theorem decides_checkOwner : Decides (checkOwner d) [ownerRule d] := by
  refine Decides.single ?_ fun h => ?_
  · rintro ⟨host, h⟩
    exact ⟨host, checkOwner_eq_ok_iff.mpr h⟩
  · have hnone : d.owner = none := Option.eq_none_iff_forall_ne_some.mpr fun host hh => h ⟨host, hh⟩
    rw [checkOwner, hnone]
    rfl

/-- Access is one check of two rules. -/
theorem decides_checkAccess :
    Decides (checkAccess mark d)
      [accessRule mark .privateAccess d, accessRule mark .static d] := by
  have hkept : ∀ modifier : Modifier,
      (accessRule mark modifier d).kept ↔ ¬ d.modifiers.contains modifier = true := by
    intro modifier
    simp [accessRule]
  exact (((Decides.pure ()).guard (hkept .static)).guard (hkept .privateAccess))

theorem decides_checkArity_field : Decides (checkArity .field d) [] :=
  Decides.pure ()

theorem decides_checkArity_handler : Decides (checkArity .handler d) [arityRule d] := by
  have hkept : (arityRule d).kept ↔
      ¬ (decide (BindingTable.handler = .handler) && decide (d.params.length > 1)) = true := by
    simp [arityRule]
  exact (Decides.pure ()).guard hkept

theorem decides_checkParameter : Decides (checkParameter d) [parameterRule d] := by
  refine Decides.single (fun h => ⟨(), checkParameter_eq_ok_iff.mpr h⟩) fun h => ?_
  unfold parameterRule at h ⊢
  cases hp : d.params with
  | nil => simp [hp] at h
  | cons type rest =>
    have hno : Java.isClassType type = false := by simpa [hp] using h
    simp [checkParameter, hp, hno]

/-- The ids are looked for on the annotation that is found. -/
theorem decides_checkIds : Decides (checkIds mark d) [markRule mark d, idsRule mark d] := by
  cases ha : d.annotationOf? mark with
  | none =>
    have hbroken : ¬ (markRule mark d).kept := by simp [markRule, ha]
    have herror : checkIds mark d = .error (markRule mark d).reason := by
      simp [checkIds, ha, markRule]
    refine ⟨?_, fun reason => ?_⟩
    · simp [herror, allKept_cons, hbroken]
    · simp [herror, firstBroken_cons, hbroken, eq_comm]
  | some found =>
    have hmark : (markRule mark d).kept := ⟨found, ha⟩
    have hids : (idsRule mark d).kept ↔
        ¬ (found.ids.isEmpty || found.ids.contains ViewId.absent) = true := by
      simp [idsRule, ha, Annotation.namesViews_iff]
    have hguard := (Decides.pure found).guard hids
    have hcheck : checkIds mark d = if found.ids.isEmpty || found.ids.contains ViewId.absent then
        .error (idsRule mark d).reason else .ok found := by
      simp only [checkIds, ha, idsRule]
    rw [hcheck]
    refine ⟨?_, fun reason => ?_⟩
    · rw [hguard.ok]
      simp [allKept_cons, allKept_nil, hmark]
    · rw [hguard.error]
      simp [firstBroken_cons, not_firstBroken_nil, hmark]

end Placement

namespace Declaration

open Placement

variable {mark : AnnotationKind} {d : Declaration}

/-- Placing a declaration tries the rules one by one. -/
theorem decides_placeAs : Decides (d.placeAs mark) (triedRules mark d) := by
  have hrest : ∀ table owner,
      Decides (checkParameter d >>= fun _ => checkIds mark d >>= fun found =>
        pure ({ table, owner, ids := found.ids } : Placed))
        (parameterRule d :: viewRules mark d) := fun table owner =>
    decides_checkParameter.bind fun _ _ => decides_checkIds.bind fun _ _ => Decides.pure _
  cases mark with
  | bindView =>
    refine decides_checkRole.bind fun table htable => ?_
    obtain ⟨rfl, -⟩ := checkRole_eq_ok_iff.mp htable
    exact decides_checkOwner.bind fun owner _ => decides_checkAccess.bind fun _ _ =>
      decides_checkArity_field.bind fun _ _ => hrest _ owner
  | onClick =>
    refine decides_checkRole.bind fun table htable => ?_
    obtain ⟨rfl, -⟩ := checkRole_eq_ok_iff.mp htable
    exact decides_checkOwner.bind fun owner _ => decides_checkAccess.bind fun _ _ =>
      decides_checkArity_handler.bind fun _ _ => hrest _ owner

/-- A field that is asked about a parameter that cannot be a view. -/
def HasStrayParameter (d : Declaration) : Prop :=
  d.kind = .field ∧ (∃ host, d.owner = some host) ∧ .privateAccess ∉ d.modifiers ∧
    .static ∉ d.modifiers ∧ ∃ type ∈ d.params.head?, Java.isClassType type = false

theorem hasStrayParameter_iff :
    d.HasStrayParameter ↔ AllKept (reachRules .bindView d) ∧ ¬ (parameterRule d).kept := by
  simp only [HasStrayParameter, reachRules, allKept_cons, allKept_nil, and_true, roleRule,
    ownerRule, accessRule, parameterRule, AnnotationKind.target, not_forall, Bool.not_eq_true,
    exists_prop, and_assoc]

/-- The rules of `BindView` are not about parameters. -/
theorem not_aboutParameters_of_mem {rule : PlacementRule} (h : rule ∈ rules .bindView d) :
    ¬ rule.reason.AboutParameters := by
  simp only [rules, reachRules, viewRules, List.cons_append, List.nil_append, List.mem_cons,
    List.not_mem_nil, or_false] at h
  rcases h with rfl | rfl | rfl | rfl | rfl | rfl <;> exact id

/-- A reason about parameters is given to fields with a stray one, and to no others. -/
theorem placeAs_bindView_aboutParameters {reason : Misplacement} (h : reason.AboutParameters) :
    d.placeAs .bindView = .error reason ↔
      d.HasStrayParameter ∧ reason = .handlerParameter d.name (d.params.headD "") := by
  have hrules : ¬ FirstBroken (rules .bindView d) reason := fun hfirst => by
    obtain ⟨rule, hrule, rfl⟩ := hfirst.exists_rule
    exact not_aboutParameters_of_mem hrule h
  rw [rules, firstBroken_append] at hrules
  rw [decides_placeAs.error, triedRules, firstBroken_append, firstBroken_append, firstBroken_cons,
    hasStrayParameter_iff, allKept_append, allKept_cons]
  have hreason : (parameterRule d).reason = .handlerParameter d.name (d.params.headD "") := rfl
  have hnil : ¬ FirstBroken [] reason := not_firstBroken_nil
  rw [hreason]
  tauto

theorem decides_bindView_iff :
    Decides (d.placeAs .bindView) (rules .bindView d) ↔ ¬ d.HasStrayParameter := by
  constructor
  · intro hdecides hstray
    have habout : (Misplacement.handlerParameter d.name (d.params.headD "")).AboutParameters :=
      trivial
    have herror := (placeAs_bindView_aboutParameters habout).mpr ⟨hstray, rfl⟩
    obtain ⟨rule, hrule, hreason⟩ := ((hdecides.error _).mp herror).exists_rule
    exact not_aboutParameters_of_mem hrule (hreason ▸ habout)
  · intro hstray
    have himplied : AllKept (reachRules .bindView d) → (parameterRule d).kept := fun hreach => by
      by_cases hkept : (parameterRule d).kept
      · exact hkept
      · exact absurd (hasStrayParameter_iff.mpr ⟨hreach, hkept⟩) hstray
    refine ⟨?_, fun reason => ?_⟩
    · rw [decides_placeAs.ok]
      exact allKept_omit himplied
    · rw [decides_placeAs.error]
      exact firstBroken_omit himplied

/-- A method has a place by the rules of `OnClick`, and a field by those of `BindView` unless its
first parameter is a stray one; then it is refused as if it were a handler. -/
theorem placement_rules (d : Declaration) :
    Decides (d.placeAs .onClick) (rules .onClick d) ∧
    (Decides (d.placeAs .bindView) (rules .bindView d) ↔ ¬ d.HasStrayParameter) ∧
    (∀ reason : Misplacement, reason.AboutParameters → (d.placeAs .bindView = .error reason ↔
      d.HasStrayParameter ∧ reason = .handlerParameter d.name (d.params.headD ""))) ∧
    ∀ mark place, d.placeAs mark = .ok place →
      place.table = mark.table ∧ d.owner = some place.owner ∧
        ∃ found, d.annotationOf? mark = some found ∧ found.ids = place.ids :=
  ⟨decides_placeAs, decides_bindView_iff, fun _ => placeAs_bindView_aboutParameters,
    fun _ _ h => ⟨place_table h, place_owner h, place_ids h⟩⟩

/-- A field that is listed with a parameter. -/
def strayField : Declaration where
  kind := .field
  name := "title"
  type := "Label"
  params := ["int"]
  owner := some (.ofName "app.Main")
  annotations := [.bindView 3]

/-- It keeps the rules of `BindView` and is refused all the same, as a handler. -/
theorem placeAs_strayField :
    AllKept (rules .bindView strayField) ∧
      strayField.placeAs .bindView = .error (.handlerParameter "title" "int") := by
  refine ⟨?_, rfl⟩
  have hfound : strayField.annotationOf? .bindView = some (.bindView 3) := rfl
  simp only [rules, reachRules, viewRules, List.cons_append, List.nil_append, allKept_cons,
    allKept_nil, and_true, markRule, idsRule, hfound]
  refine ⟨rfl, ⟨_, rfl⟩, List.not_mem_nil, List.not_mem_nil, ⟨_, rfl⟩, ?_⟩
  rintro _ ⟨⟩
  show (3 : ViewId) ≠ ViewId.absent
  decide

end Declaration

end ViewBinding
