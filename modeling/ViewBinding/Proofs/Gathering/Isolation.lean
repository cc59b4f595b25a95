import ViewBinding.Proofs.Gathering.Reference

/-!
# Gathering goes class by class

The injector of a class is made of the accepted sightings of that class and of nothing else. So it
is the same in any two rounds that report the same accepted declarations of the class, whatever else
they report.

* `Roster.get?_foldl_enter`: all other sightings can be left out.
* `Round.get?_gatherInto_congr`: rounds that agree on a class have one injector for it, or none.
-/

namespace ViewBinding

/-- The sighting is accepted, and its class is the one of that name. -/
def Sighting.concerns (r : Sighting) (owner : String) : Bool :=
  r.isAccepted && r.declaration.owner.any (·.name = owner)

/-- The declarations of a class that a round reports for an annotation and that are accepted. -/
def Round.acceptedOf (round : Round) (owner : String) (kind : AnnotationKind) : List Declaration :=
  (round.reported kind).filter fun d => Sighting.concerns ⟨kind, d⟩ owner

namespace Roster

variable {roster roster' : Roster} {owner : String} {r : Sighting}

/-- Of an accepted sighting the place says which class it concerns. -/
theorem concerns_of_place {place : Placed} (hp : r.declaration.placeAs r.kind = .ok place) :
    r.concerns owner = true ↔ owner = place.owner.name := by
  have hacc : r.isAccepted = true := Sighting.isAccepted_iff.mpr ⟨place, hp⟩
  simp [Sighting.concerns, hacc, Declaration.place_owner hp, eq_comm]

/-- A sighting of another class, or a rejected one, leaves the injector of the class alone. -/
theorem get?_enter_of_not_concerns (h : r.concerns owner = false) :
    (roster.enter r).get? owner = roster.get? owner := by
  cases hp : r.declaration.placeAs r.kind with
  | error reason =>
    have hrej : r.isAccepted = false := by
      simp [Sighting.isAccepted, hp, Except.isOk, Except.toBool]
    rw [enter_of_rejected hrej]
  | ok place =>
    have hne : owner ≠ place.owner.name := fun heq => by
      rw [(concerns_of_place hp).mpr heq] at h
      cases h
    rw [get?_enter_of_place hp, if_neg hne]

/-- What a sighting makes of the injector of a class hangs on that injector alone. -/
theorem get?_enter_congr (h : roster.get? owner = roster'.get? owner) :
    (roster.enter r).get? owner = (roster'.enter r).get? owner := by
  cases hp : r.declaration.placeAs r.kind with
  | error reason => simp only [enter, hp, h]
  | ok place =>
    rw [get?_enter_of_place hp, get?_enter_of_place hp]
    by_cases ho : owner = place.owner.name
    · subst ho
      simp only [if_true, injectorOf, h]
    · rw [if_neg ho, if_neg ho, h]

theorem get?_foldl_enter_congr (rs : List Sighting) (h : roster.get? owner = roster'.get? owner) :
    (rs.foldl enter roster).get? owner = (rs.foldl enter roster').get? owner := by
  induction rs generalizing roster roster' with
  | nil => exact h
  | cons r rest ih => exact ih (get?_enter_congr h)

/-- All sightings that do not concern the class can be left out. -/
theorem get?_foldl_enter (rs : List Sighting) (roster : Roster) (owner : String) :
    (rs.foldl enter roster).get? owner =
      ((rs.filter (·.concerns owner)).foldl enter roster).get? owner := by
  induction rs generalizing roster with
  | nil => rfl
  | cons r rest ih =>
    cases hr : r.concerns owner with
    | true => rw [List.filter_cons, hr, if_pos rfl, List.foldl_cons, List.foldl_cons, ih]
    | false =>
      rw [List.filter_cons, hr, if_neg Bool.false_ne_true, List.foldl_cons, ← ih]
      exact get?_foldl_enter_congr rest (get?_enter_of_not_concerns hr)

end Roster

namespace Round

variable {round round' : Round} {owner : String}

/-- The sightings of a round that concern a class, annotation by annotation. -/
theorem filter_concerns_sightings (round : Round) (owner : String) :
    round.sightings.filter (·.concerns owner) =
      AnnotationKind.all.flatMap fun kind =>
        (round.acceptedOf owner kind).map fun d => ⟨kind, d⟩ := by
  simp only [sightings, List.filter_flatMap, List.filter_map, Function.comp_def, acceptedOf]

/-- Rounds that report the same accepted declarations of a class have one injector for it, or
none. -/
theorem get?_gatherInto_congr
    (h : ∀ kind, round.acceptedOf owner kind = round'.acceptedOf owner kind) :
    (round.gatherInto .empty).roster.get? owner =
      (round'.gatherInto .empty).roster.get? owner := by
  rw [gatherInto, gatherInto, Gathering.gather_roster, Gathering.gather_roster,
    Roster.get?_foldl_enter round.sightings, Roster.get?_foldl_enter round'.sightings,
    filter_concerns_sightings, filter_concerns_sightings, funext h]

end Round

end ViewBinding
