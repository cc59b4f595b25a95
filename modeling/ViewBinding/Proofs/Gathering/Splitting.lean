import Mathlib.Data.List.Perm.Basic
import ViewBinding.Proofs.Gathering.Isolation
import ViewBinding.Proofs.SortedMap

/-!
# Gathering a round in two parts

A round that reports two lists of declarations takes in both of them for `BindView` before it takes
in any for `OnClick`. Where no class has members in both lists this makes no difference to any
class: the injectors are those of two rounds with one list each.

* `Round.sightings_append_perm`: the two rounds see what the one sees, in another order.
* `Round.get?_of_part`: what a round gathers for chosen classes only.
* `Round.filter_values_left`, `Round.filter_values_right`: the injectors of the two rounds.
-/

namespace ViewBinding

/-- The names of the classes that the declarations are members of. -/
def ownerNames (ds : List Declaration) : List String :=
  ds.filterMap fun d => d.owner.map (·.name)

/-- No class has members in both lists. -/
def OwnersApart (a b : List Declaration) : Prop :=
  ∀ name ∈ ownerNames a, name ∉ ownerNames b

instance (a b : List Declaration) : Decidable (OwnersApart a b) :=
  inferInstanceAs (Decidable (∀ name ∈ ownerNames a, name ∉ ownerNames b))

/-- The reports of two rounds, counted together. -/
instance : Add Tally where
  add t t' := ⟨t.scanned + t'.scanned, t.accepted + t'.accepted, t.rejected + t'.rejected⟩

namespace Round

variable {part whole : Round} {p : String → Bool} {ds a b : List Declaration} {owner : String}

/-! ## Sightings -/

theorem reported_append (a b : List Declaration) (kind : AnnotationKind) :
    (ofDeclarations (a ++ b)).reported kind =
      (ofDeclarations a).reported kind ++ (ofDeclarations b).reported kind :=
  List.filter_append ..

/-- Two rounds see what one sees, in another order. -/
theorem sightings_append_perm (a b : List Declaration) :
    (ofDeclarations (a ++ b)).sightings.Perm
      ((ofDeclarations a).sightings ++ (ofDeclarations b).sightings) := by
  simp only [sightings, reported_append, List.map_append]
  exact (List.flatMap_append_perm ..).symm

theorem rejections_append_perm (a b : List Declaration) :
    (ofDeclarations (a ++ b)).rejections.Perm
      ((ofDeclarations a).rejections ++ (ofDeclarations b).rejections) := by
  rw [rejections, rejections, rejections, ← List.filterMap_append]
  exact (sightings_append_perm a b).filterMap _

theorem tally_append (a b : List Declaration) :
    ((ofDeclarations (a ++ b)).gatherInto .empty).tally =
      ((ofDeclarations a).gatherInto .empty).tally +
        ((ofDeclarations b).gatherInto .empty).tally := by
  have hperm := sightings_append_perm a b
  obtain ⟨hs, ha, hr⟩ := Gathering.gather_tally (ofDeclarations (a ++ b)) {}
  obtain ⟨hs₁, ha₁, hr₁⟩ := Gathering.gather_tally (ofDeclarations a) {}
  obtain ⟨hs₂, ha₂, hr₂⟩ := Gathering.gather_tally (ofDeclarations b) {}
  rw [hperm.length_eq, List.length_append] at hs
  rw [hperm.countP_eq, List.countP_append] at ha hr
  apply Tally.ext
  all_goals
    show _ = _ + _
    simp only [gatherInto] at *
    omega

/-! ## Injectors -/

theorem acceptedOf_append (a b : List Declaration) (owner : String) (kind : AnnotationKind) :
    (ofDeclarations (a ++ b)).acceptedOf owner kind =
      (ofDeclarations a).acceptedOf owner kind ++ (ofDeclarations b).acceptedOf owner kind := by
  rw [acceptedOf, reported_append, List.filter_append]
  rfl

theorem acceptedOf_eq_nil (h : owner ∉ ownerNames ds) (kind : AnnotationKind) :
    (ofDeclarations ds).acceptedOf owner kind = [] := by
  refine List.filter_eq_nil_iff.mpr fun d hd hconcerns => h ?_
  have hany := (Bool.and_eq_true_iff.mp hconcerns).2
  obtain ⟨host, hhost, hname⟩ := (Option.any_eq_true _ _).mp hany
  refine List.mem_filterMap.mpr ⟨d, (List.mem_filter.mp hd).1, ?_⟩
  rw [hhost, Option.map_some, of_decide_eq_true hname]

/-- A round that reports, for chosen classes only, what another one reports gathers the injectors of
these classes. -/
theorem get?_of_part (h : ∀ owner kind, part.acceptedOf owner kind =
      if p owner then whole.acceptedOf owner kind else []) (owner : String) :
    (part.gatherInto .empty).roster.get? owner =
      if p owner then (whole.gatherInto .empty).roster.get? owner else none := by
  cases hp : p owner with
  | true => exact get?_gatherInto_congr fun kind => by rw [h, hp, if_pos rfl]
  | false =>
    have hclosing : ∀ kind, part.acceptedOf owner kind = closing.acceptedOf owner kind := by
      intro kind
      rw [h, hp]
      rfl
    rw [get?_gatherInto_congr hclosing]
    rfl

theorem filter_values_of_part (h : ∀ owner kind, part.acceptedOf owner kind =
      if p owner then whole.acceptedOf owner kind else []) :
    (whole.gatherInto .empty).roster.values.filter (p ·.host.name) =
      (part.gatherInto .empty).roster.values := by
  have hreflects := Roster.reflects_gatherAll [whole]
  rw [SortedMap.values, SortedMap.values, ← SortedMap.filter_entries (get?_of_part h),
    List.filter_map]
  congr 1
  refine List.filter_congr fun e he => congrArg p ?_
  exact (hreflects.host e.1 e.2 (SortedMap.mem_entries_iff.mp he)).1

/-- The injectors of the classes of the first part. -/
theorem filter_values_left (h : OwnersApart a b) :
    ((ofDeclarations (a ++ b)).gatherInto .empty).roster.values.filter
        (·.host.name ∈ ownerNames a) =
      ((ofDeclarations a).gatherInto .empty).roster.values := by
  refine filter_values_of_part (p := (· ∈ ownerNames a)) fun owner kind => ?_
  rw [acceptedOf_append]
  by_cases ha : owner ∈ ownerNames a
  · simp [ha, acceptedOf_eq_nil (h owner ha)]
  · simp [ha, acceptedOf_eq_nil ha]

/-- The injectors of the other classes. -/
theorem filter_values_right (h : OwnersApart a b) :
    ((ofDeclarations (a ++ b)).gatherInto .empty).roster.values.filter
        (fun i => !decide (i.host.name ∈ ownerNames a)) =
      ((ofDeclarations b).gatherInto .empty).roster.values := by
  refine filter_values_of_part (p := fun name => !decide (name ∈ ownerNames a)) fun owner kind => ?_
  rw [acceptedOf_append]
  by_cases ha : owner ∈ ownerNames a
  · simp [ha, acceptedOf_eq_nil (h owner ha)]
  · simp [ha, acceptedOf_eq_nil ha]

end Round

end ViewBinding
