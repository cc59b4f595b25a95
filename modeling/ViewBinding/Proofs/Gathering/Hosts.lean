import ViewBinding.Proofs.Gathering.Reference

/-!
# The class an injector is made for

An injector keeps what its first declaration knows of the class, its package among it, and later
declarations only claim views. In a round the fields come before the handlers, each in the order in
which they were reported.

* `Roster.host_foldl_enter`: the class of an injector is that of the first sighting that binds.
* `leadingHosts`: the class, as the declarations know it that can be this first one.
* `Round.host_mem_leadingHosts`: a round in any order takes the class from one of them.
-/

namespace ViewBinding

/-! ## The first sighting of a class -/

/-- The class as a sighting that binds in it knows it. -/
def Sighting.host? (r : Sighting) (owner : String) : Option HostClass :=
  match r.declaration.placeAs r.kind with
  | .ok place => if place.owner.name = owner then some place.owner else none
  | .error _ => none

theorem Sighting.host?_eq_some {r : Sighting} {owner : String} {host : HostClass} :
    r.host? owner = some host ↔
      ∃ place, r.declaration.placeAs r.kind = .ok place ∧ place.owner = host ∧
        host.name = owner := by
  unfold host?
  cases hp : r.declaration.placeAs r.kind with
  | error reason => simp
  | ok place =>
    simp only [Option.ite_none_right_eq_some, Option.some.injEq, Except.ok.injEq, exists_eq_left']
    constructor
    · rintro ⟨hname, rfl⟩
      exact ⟨rfl, hname⟩
    · rintro ⟨rfl, hname⟩
      exact ⟨hname, rfl⟩

namespace Roster

variable {roster : Roster} {owner : String}

/-- A sighting gives a class to an injector that is new, and leaves it to one that there is. -/
theorem host_enter (r : Sighting) :
    ((roster.enter r).get? owner).map (·.host) =
      ((roster.get? owner).map (·.host)).or (r.host? owner) := by
  cases hp : r.declaration.placeAs r.kind with
  | error reason => simp [enter, Sighting.host?, hp]
  | ok place =>
    rw [get?_enter_of_place hp, Sighting.host?, hp]
    by_cases ho : place.owner.name = owner
    · subst ho
      simp only [if_true, Option.map_some, Injector.host_bindAll, injectorOf]
      cases roster.get? place.owner.name <;> rfl
    · simp [ho, Ne.symm ho]

/-- The class of an injector is that of the first sighting that binds. -/
theorem host_foldl_enter (rs : List Sighting) :
    ((rs.foldl enter roster).get? owner).map (·.host) =
      ((roster.get? owner).map (·.host)).or (rs.findSome? (·.host? owner)) := by
  induction rs generalizing roster with
  | nil => simp
  | cons r rest ih =>
    rw [List.foldl_cons, ih, host_enter, Option.or_assoc, List.findSome?_cons]
    cases r.host? owner <;> rfl

end Roster

/-! ## The declarations that can come first -/

/-- The class as the declarations know it that an annotation binds in it. -/
def acceptedHosts (ds : List Declaration) (kind : AnnotationKind) (owner : String) :
    List HostClass :=
  ds.filterMap fun d => Sighting.host? ⟨kind, d⟩ owner

/-- The class as its fields know it, or as its handlers do if it has no fields. -/
def leadingHosts (ds : List Declaration) (owner : String) : List HostClass :=
  if (acceptedHosts ds .bindView owner).isEmpty then acceptedHosts ds .onClick owner
  else acceptedHosts ds .bindView owner

section

variable {ds es : List Declaration} {owner : String} {host : HostClass}

theorem acceptedHosts_perm (h : ds.Perm es) (kind : AnnotationKind) :
    (acceptedHosts ds kind owner).Perm (acceptedHosts es kind owner) :=
  h.filterMap _

theorem leadingHosts_perm (h : ds.Perm es) :
    (leadingHosts ds owner).Perm (leadingHosts es owner) := by
  unfold leadingHosts
  rw [(acceptedHosts_perm h .bindView).isEmpty_eq]
  split
  · exact acceptedHosts_perm h .onClick
  · exact acceptedHosts_perm h .bindView

/-- What a round reports for an annotation binds in the same classes as all its declarations: one
that does not carry the annotation is not bound by it. -/
theorem filterMap_reported (ds : List Declaration) (kind : AnnotationKind) (owner : String) :
    ((Round.ofDeclarations ds).reported kind).filterMap (fun d => Sighting.host? ⟨kind, d⟩ owner) =
      acceptedHosts ds kind owner := by
  simp only [Round.ofDeclarations, acceptedHosts, List.filterMap_filter]
  refine List.filterMap_congr fun d _ => ?_
  cases hf : d.annotationOf? kind with
  | some found => rfl
  | none =>
    cases hh : Sighting.host? ⟨kind, d⟩ owner with
    | none => rfl
    | some host =>
      obtain ⟨place, hplace, -⟩ := Sighting.host?_eq_some.mp hh
      obtain ⟨found, hfound, -⟩ := Declaration.place_ids hplace
      rw [hf] at hfound
      cases hfound

/-- A round takes the class of an injector from a declaration that can come first. -/
theorem Round.host_mem_leadingHosts {i : Injector}
    (h : ((Round.ofDeclarations ds).gatherInto .empty).roster.get? owner = some i) :
    i.host ∈ leadingHosts ds owner := by
  have hrun := @Roster.host_foldl_enter .empty owner (Round.ofDeclarations ds).sightings
  rw [gatherInto, Gathering.gather_roster] at h
  rw [h, SortedMap.get?_empty, Option.map_none, Option.none_or, sightings_eq,
    List.findSome?_append, List.findSome?_map, List.findSome?_map, Option.map_some] at hrun
  have hfirst (kind : AnnotationKind) : ((Round.ofDeclarations ds).reported kind).findSome?
      ((fun r : Sighting => r.host? owner) ∘ fun d => ⟨kind, d⟩) =
        (acceptedHosts ds kind owner).head? := by
    rw [← filterMap_reported, List.head?_filterMap]
    rfl
  rw [hfirst, hfirst] at hrun
  unfold leadingHosts
  cases hfields : acceptedHosts ds .bindView owner with
  | nil =>
    rw [hfields, List.head?_nil, Option.none_or] at hrun
    exact List.mem_of_mem_head? hrun.symm
  | cons host rest =>
    rw [hfields, List.head?_cons, Option.some_or, Option.some.injEq] at hrun
    rw [hrun]
    exact List.mem_cons_self

end

end ViewBinding
