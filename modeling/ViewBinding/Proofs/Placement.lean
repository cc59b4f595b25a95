import ViewBinding.Placement

/-!
# What placing a declaration says about it

Each check of a placement succeeds under one condition, and a declaration has a place exactly if it
passes all of them.

* `Declaration.placeAs_eq_ok_iff`: the conditions of a place, one for each check.
* `Declaration.place_table`, `Declaration.place_owner`, `Declaration.place_ids`: a place belongs to
  the table of the annotation, to the class around the declaration and to the views named there.
-/

namespace ViewBinding

theorem except_bind_eq_ok {ε α β : Type} {x : Except ε α} {f : α → Except ε β} {b : β} :
    x >>= f = .ok b ↔ ∃ a, x = .ok a ∧ f a = .ok b := by
  cases x with
  | error e =>
    constructor
    · intro h; cases h
    · rintro ⟨a, h, -⟩; cases h
  | ok a =>
    constructor
    · intro h; exact ⟨a, rfl, h⟩
    · rintro ⟨a', ha, h⟩; cases ha; exact h

/-- The kind of declaration that an annotation can stand on. -/
def AnnotationKind.target : AnnotationKind → DeclarationKind
  | .bindView => .field
  | .onClick => .method

namespace Placement

variable {mark : AnnotationKind} {d : Declaration}

theorem checkRole_eq_ok_iff {table : BindingTable} :
    checkRole mark d = .ok table ↔ table = mark.table ∧ d.kind = mark.target := by
  cases hk : d.kind <;> cases mark <;> cases table <;>
    simp [checkRole, hk, DeclarationKind.role, AnnotationKind.table, AnnotationKind.target]

theorem checkOwner_eq_ok_iff {owner : HostClass} :
    checkOwner d = .ok owner ↔ d.owner = some owner := by
  cases ho : d.owner <;> simp [checkOwner, ho]

theorem checkArity_eq_ok_iff {table : BindingTable} :
    checkArity table d = .ok () ↔ (table = .handler → d.params.length ≤ 1) := by
  unfold checkArity
  cases table with
  | field => simp
  | handler =>
    by_cases h : d.params.length ≤ 1
    · simp [h, Nat.not_lt.mpr h]
    · simp [h, Nat.not_le.mp h]

theorem checkParameter_eq_ok_iff :
    checkParameter d = .ok () ↔ ∀ type ∈ d.params.head?, Java.isClassType type = true := by
  cases hp : d.params with
  | nil => simp [checkParameter, hp]
  | cons type rest =>
    cases hc : Java.isClassType type <;> simp [checkParameter, hp, hc]

theorem checkIds_eq_ok_iff {found : Annotation} :
    checkIds mark d = .ok found ↔
      d.annotationOf? mark = some found ∧ found.ids ≠ [] ∧ ViewId.absent ∉ found.ids := by
  unfold checkIds
  cases ha : d.annotationOf? mark with
  | none => simp
  | some a =>
    by_cases hn : a.ids.isEmpty || a.ids.contains ViewId.absent
    · simp only [hn, if_true]
      constructor
      · intro h; cases h
      · rintro ⟨h, hne, hna⟩
        cases h
        simp [hne, hna] at hn
    · simp only [hn]
      have hids : a.ids ≠ [] ∧ ViewId.absent ∉ a.ids := by simpa using hn
      constructor
      · intro h; cases h; exact ⟨rfl, hids⟩
      · rintro ⟨h, -⟩; cases h; rfl

end Placement

namespace Declaration

variable {mark : AnnotationKind} {d : Declaration} {place : Placed}

/-- A place is found exactly if every check succeeds. -/
theorem placeAs_eq_ok_iff :
    d.placeAs mark = .ok place ↔
      Placement.checkRole mark d = .ok place.table ∧ Placement.checkOwner d = .ok place.owner ∧
      Placement.checkAccess mark d = .ok () ∧ Placement.checkArity place.table d = .ok () ∧
      Placement.checkParameter d = .ok () ∧
      ∃ found, Placement.checkIds mark d = .ok found ∧ found.ids = place.ids := by
  simp only [placeAs, except_bind_eq_ok]
  constructor
  · rintro ⟨table, hr, owner, ho, ⟨⟩, ha, ⟨⟩, hn, ⟨⟩, hp, found, hi, hplace⟩
    cases hplace
    exact ⟨hr, ho, ha, hn, hp, found, hi, rfl⟩
  · rintro ⟨hr, ho, ha, hn, hp, found, hi, hids⟩
    refine ⟨_, hr, _, ho, (), ha, (), hn, (), hp, found, hi, ?_⟩
    rw [hids]
    rfl

theorem place_table (h : d.placeAs mark = .ok place) : place.table = mark.table :=
  (Placement.checkRole_eq_ok_iff.mp (placeAs_eq_ok_iff.mp h).1).1

theorem place_target (h : d.placeAs mark = .ok place) : d.kind = mark.target :=
  (Placement.checkRole_eq_ok_iff.mp (placeAs_eq_ok_iff.mp h).1).2

theorem place_owner (h : d.placeAs mark = .ok place) : d.owner = some place.owner :=
  Placement.checkOwner_eq_ok_iff.mp (placeAs_eq_ok_iff.mp h).2.1

theorem place_ids (h : d.placeAs mark = .ok place) :
    ∃ found, d.annotationOf? mark = some found ∧ found.ids = place.ids := by
  obtain ⟨-, -, -, -, -, found, hi, hids⟩ := placeAs_eq_ok_iff.mp h
  exact ⟨found, (Placement.checkIds_eq_ok_iff.mp hi).1, hids⟩

end Declaration

end ViewBinding
