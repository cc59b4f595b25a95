import ViewBinding.Proofs.Gathering.Claims
import ViewBinding.Proofs.Gathering.Sightings
import ViewBinding.Proofs.Text.ByteOrder

/-!
# What a roster knows of the rounds gathered into it

Whatever rounds have been gathered into a roster, its answers can be read off the list of all
sightings: which classes have an injector, which declaration a view is bound to, and which views
are disputed by whom.

* `Declaration.claims`, `claimants`: who claims a view of a class, said without a roster.
* `Roster.Reflects.enter`: what one sighting does to all answers.
* `Roster.reflects_gatherAll`: all answers after any number of rounds.
-/

namespace ViewBinding

/-! ## The reference -/

/-- The declaration is accepted for the annotation, is a member of the class of that name, and its
annotation names the view. -/
def Declaration.claims (d : Declaration) (kind : AnnotationKind) (owner : String) (id : ViewId) :
    Bool :=
  (d.placeAs kind).isOk && d.owner.any (·.name = owner) &&
    (d.annotationOf? kind).any (·.ids.contains id)

/-- All declarations that claim a view of a class, in the order in which the rounds report them. -/
def claimants (rounds : List Round) (kind : AnnotationKind) (owner : String) (id : ViewId) :
    List Declaration :=
  rounds.flatMap fun round => (round.reported kind).filter (·.claims kind owner id)

/-- The rounds gathered one after the other, into a roster that nothing clears in between. -/
def Roster.gatherAll (rounds : List Round) : Roster :=
  rounds.foldl (fun roster round => (round.gatherInto roster).roster) .empty

theorem Declaration.claims_iff {d : Declaration} {kind : AnnotationKind} {owner : String}
    {id : ViewId} :
    d.claims kind owner id = true ↔
      (∃ place, d.placeAs kind = .ok place) ∧ (∃ host, d.owner = some host ∧ host.name = owner) ∧
      ∃ found, d.annotationOf? kind = some found ∧ id ∈ found.ids := by
  have hok : (d.placeAs kind).isOk = true ↔ ∃ place, d.placeAs kind = .ok place :=
    Sighting.isAccepted_iff (r := ⟨kind, d⟩)
  simp only [claims, Bool.and_eq_true, hok, Option.any_eq_true, decide_eq_true_eq,
    List.contains_iff_mem, and_assoc]

/-- Of an accepted declaration the place says what it claims. -/
theorem Declaration.claims_of_place {d : Declaration} {kind : AnnotationKind} {place : Placed}
    (h : d.placeAs kind = .ok place) {owner : String} {id : ViewId} :
    d.claims kind owner id = true ↔ place.owner.name = owner ∧ id ∈ place.ids := by
  obtain ⟨found, hf, hids⟩ := place_ids h
  rw [claims_iff, place_owner h, hf, ← hids]
  constructor
  · rintro ⟨-, ⟨host, hh, hname⟩, a, ha, hid⟩
    cases hh
    cases ha
    exact ⟨hname, hid⟩
  · rintro ⟨hname, hid⟩
    exact ⟨⟨place, h⟩, ⟨_, rfl, hname⟩, _, rfl, hid⟩

theorem mem_claimants {rounds : List Round} {kind : AnnotationKind} {owner : String} {id : ViewId}
    {d : Declaration} :
    d ∈ claimants rounds kind owner id ↔
      ∃ round ∈ rounds, d ∈ round.reported kind ∧ d.claims kind owner id = true := by
  simp [claimants]

/-! ## The history of a roster -/

/-- The sighting claims the view. -/
def Sighting.claims (r : Sighting) (kind : AnnotationKind) (owner : String) (id : ViewId) : Bool :=
  r.kind = kind && r.declaration.claims kind owner id

/-- All declarations of a history of sightings that claim a view of a class. -/
def claimantsIn (history : List Sighting) (kind : AnnotationKind) (owner : String) (id : ViewId) :
    List Declaration :=
  (history.filter (·.claims kind owner id)).map (·.declaration)

theorem claimantsIn_sightings (rounds : List Round) (kind : AnnotationKind) (owner : String) :
    claimantsIn (rounds.flatMap Round.sightings) kind owner = claimants rounds kind owner := by
  funext id
  induction rounds with
  | nil => rfl
  | cons round rest ih =>
    have hround : claimantsIn round.sightings kind owner id =
        (round.reported kind).filter (·.claims kind owner id) := by
      rw [claimantsIn, Round.sightings_eq, List.filter_append, List.filter_map, List.filter_map]
      cases kind <;> simp [Sighting.claims, Function.comp_def]
    rw [claimants, List.flatMap_cons, List.flatMap_cons, ← hround, ← claimants, ← ih, claimantsIn,
      List.filter_append, List.map_append]
    rfl

theorem claimantsIn_append_of_rejected {history : List Sighting} {r : Sighting}
    (h : r.isAccepted = false) (kind : AnnotationKind) (owner : String) :
    claimantsIn (history ++ [r]) kind owner = claimantsIn history kind owner := by
  funext id
  have hno : r.claims kind owner id = false := by
    simp only [Sighting.claims, Bool.and_eq_false_iff, decide_eq_false_iff_not]
    by_cases hk : r.kind = kind
    · subst hk
      refine .inr (Bool.eq_false_iff.mpr fun hc => ?_)
      have := Sighting.isAccepted_iff.mpr (Declaration.claims_iff.mp hc).1
      rw [h] at this
      cases this
    · exact .inl hk
  simp [claimantsIn, List.filter_append, hno]

/-- An accepted sighting adds its declaration to the claimants of its views. -/
theorem claimantsIn_append_of_place {history : List Sighting} {r : Sighting} {place : Placed}
    (h : r.declaration.placeAs r.kind = .ok place) (kind : AnnotationKind) (owner : String) :
    claimantsIn (history ++ [r]) kind owner =
      if r.kind = kind ∧ place.owner.name = owner then
        IdTable.claimsAfter (claimantsIn history kind owner) place.ids r.declaration
      else claimantsIn history kind owner := by
  funext id
  simp only [claimantsIn, List.filter_append, List.map_append]
  by_cases hk : r.kind = kind
  · subst hk
    have hiff : r.declaration.claims r.kind owner id = true ↔
        place.owner.name = owner ∧ id ∈ place.ids := Declaration.claims_of_place h
    by_cases ho : place.owner.name = owner
    · by_cases hid : id ∈ place.ids
      · simp [Sighting.claims, hiff.mpr ⟨ho, hid⟩, ho, IdTable.claimsAfter, hid, claimantsIn]
      · have : r.declaration.claims r.kind owner id = false :=
          Bool.eq_false_iff.mpr fun hc => hid (hiff.mp hc).2
        simp [Sighting.claims, this, ho, IdTable.claimsAfter, hid, claimantsIn]
    · have : r.declaration.claims r.kind owner id = false :=
        Bool.eq_false_iff.mpr fun hc => ho (hiff.mp hc).1
      simp [Sighting.claims, this, ho, claimantsIn]
  · simp [Sighting.claims, hk, claimantsIn]

namespace Injector

/-- The tables of the injector stand for the claims made by the annotation of each. -/
def Records (i : Injector) (claims : AnnotationKind → ViewId → List Declaration) : Prop :=
  ∀ kind : AnnotationKind, (i.table kind.table).Records (claims kind)

theorem table_bindAll {i : Injector} {table : BindingTable} {ids : List ViewId} {d : Declaration}
    (t : BindingTable) :
    (i.bindAll table ids d).table t =
      if t = table then ids.foldl (fun t id => t.bind id d) (i.table t) else i.table t := by
  induction ids generalizing i with
  | nil => simp [bindAll]
  | cons id rest ih =>
    have hstep : (i.bind table id d).table t =
        if t = table then (i.table t).bind id d else i.table t := by
      cases t <;> cases table <;> rfl
    rw [bindAll, List.foldl_cons, ← bindAll, ih, hstep]
    split <;> rfl

theorem host_bindAll {i : Injector} {table : BindingTable} {ids : List ViewId} {d : Declaration} :
    (i.bindAll table ids d).host = i.host := by
  induction ids generalizing i with
  | nil => rfl
  | cons id rest ih =>
    rw [bindAll, List.foldl_cons, ← bindAll, ih]
    cases table <;> rfl

theorem Records.bindAll {i : Injector} {claims : AnnotationKind → ViewId → List Declaration}
    (h : i.Records claims) (kind : AnnotationKind) (ids : List ViewId) (d : Declaration) :
    (i.bindAll kind.table ids d).Records fun k =>
      if kind = k then IdTable.claimsAfter (claims k) ids d else claims k := by
  intro k
  rw [table_bindAll]
  by_cases hk : kind = k
  · subst hk
    simp only [if_true]
    exact (h kind).bindAll ids d
  · have ht : k.table ≠ kind.table := by
      cases k <;> cases kind <;> simp [AnnotationKind.table] at hk ⊢
    simp only [if_neg ht, if_neg hk]
    exact h k

end Injector

namespace Roster

/-- The roster stands for a history of sightings: there is an injector for each class with an
accepted sighting, and its tables record the claims of that class. -/
structure Reflects (roster : Roster) (history : List Sighting) : Prop where
  present : ∀ owner, (roster.get? owner).isSome ↔
    ∃ r ∈ history, r.isAccepted = true ∧ ∃ host, r.declaration.owner = some host ∧ host.name = owner
  host : ∀ owner i, roster.get? owner = some i → i.host.name = owner ∧
    ∃ r ∈ history, r.isAccepted = true ∧ r.declaration.owner = some i.host
  records : ∀ owner i, roster.get? owner = some i →
    i.Records fun kind => claimantsIn history kind owner

variable {roster : Roster} {history : List Sighting}

theorem reflects_empty : Reflects .empty [] where
  present owner := by simp
  host owner i h := by cases h
  records owner i h := by cases h

/-- A class without an injector has no claims. -/
theorem Reflects.claimantsIn_of_none (h : roster.Reflects history) {owner : String}
    (hg : roster.get? owner = none) (kind : AnnotationKind) :
    claimantsIn history kind owner = fun _ => [] := by
  funext id
  have hnone : ∀ r ∈ history, r.claims kind owner id = false := by
    intro r hr
    refine Bool.eq_false_iff.mpr fun hc => ?_
    simp only [Sighting.claims, Bool.and_eq_true, decide_eq_true_eq] at hc
    obtain ⟨rfl, hc⟩ := hc
    obtain ⟨hplace, hhost, -⟩ := Declaration.claims_iff.mp hc
    have := (h.present owner).mpr ⟨r, hr, Sighting.isAccepted_iff.mpr hplace, hhost⟩
    rw [hg] at this
    cases this
  rw [claimantsIn, List.filter_eq_nil_iff.mpr fun r hr => by simp [hnone r hr], List.map_nil]

/-- The injector that a class has or is given records the claims of the class. -/
theorem Reflects.injectorOf (h : roster.Reflects history) (host : HostClass) :
    (roster.injectorOf host).host.name = host.name ∧
    ((roster.injectorOf host).host = host ∨ ∃ r ∈ history, r.isAccepted = true ∧
      r.declaration.owner = some (roster.injectorOf host).host) ∧
    (roster.injectorOf host).Records fun kind => claimantsIn history kind host.name := by
  unfold Roster.injectorOf
  cases hg : roster.get? host.name with
  | some i =>
    obtain ⟨hname, hsighting⟩ := h.host _ _ hg
    exact ⟨hname, .inr hsighting, h.records _ _ hg⟩
  | none =>
    refine ⟨rfl, .inl rfl, fun kind => ?_⟩
    simp only [h.claimantsIn_of_none hg]
    cases kind <;> exact IdTable.records_empty

theorem enter_of_rejected {r : Sighting} (h : r.isAccepted = false) : roster.enter r = roster := by
  unfold enter
  cases hp : r.declaration.placeAs r.kind with
  | error reason => rfl
  | ok place =>
    rw [Sighting.isAccepted_iff.mpr ⟨place, hp⟩] at h
    cases h

theorem Reflects.enter_of_rejected (h : roster.Reflects history) {r : Sighting}
    (hr : r.isAccepted = false) : (roster.enter r).Reflects (history ++ [r]) := by
  rw [Roster.enter_of_rejected hr]
  refine ⟨fun owner => ?_, fun owner i hi => ?_, fun owner i hi => ?_⟩
  · simp [h.present, or_and_right, exists_or, hr]
  · obtain ⟨hname, r', hr', hacc⟩ := h.host owner i hi
    exact ⟨hname, r', List.mem_append_left _ hr', hacc⟩
  · simp only [claimantsIn_append_of_rejected hr]
    exact h.records owner i hi

/-- An accepted sighting changes the injector of its class and no other. -/
theorem get?_enter_of_place {r : Sighting} {place : Placed}
    (hp : r.declaration.placeAs r.kind = .ok place) (owner : String) :
    (roster.enter r).get? owner = if owner = place.owner.name then
      some ((roster.injectorOf place.owner).bindAll r.kind.table place.ids r.declaration)
      else roster.get? owner := by
  unfold enter
  simp only [hp, get?_update, Declaration.place_table hp]

section

variable {r : Sighting} {place : Placed}

/-- From then on there is an injector of its class. -/
theorem Reflects.present_of_place (h : roster.Reflects history)
    (hp : r.declaration.placeAs r.kind = .ok place) (owner : String) :
    ((roster.enter r).get? owner).isSome ↔ ∃ r' ∈ history ++ [r], r'.isAccepted = true ∧
      ∃ host, r'.declaration.owner = some host ∧ host.name = owner := by
  have howner := Declaration.place_owner hp
  rw [get?_enter_of_place hp]
  by_cases ho : owner = place.owner.name
  · subst ho
    simp only [if_true, Option.isSome_some, true_iff]
    exact ⟨r, by simp, Sighting.isAccepted_iff.mpr ⟨place, hp⟩, _, howner, rfl⟩
  · rw [if_neg ho, h.present]
    constructor
    · rintro ⟨r', hr', hrest⟩
      exact ⟨r', List.mem_append_left _ hr', hrest⟩
    · rintro ⟨r', hr', hacc', host, hh, hn⟩
      rcases List.mem_append.mp hr' with hr' | hr'
      · exact ⟨r', hr', hacc', host, hh, hn⟩
      · rw [List.mem_singleton.mp hr', howner] at hh
        cases hh
        exact absurd hn.symm ho

/-- An injector keeps the class that it was made for. -/
theorem Reflects.host_of_place (h : roster.Reflects history)
    (hp : r.declaration.placeAs r.kind = .ok place) {owner : String} {i : Injector}
    (hi : (roster.enter r).get? owner = some i) :
    i.host.name = owner ∧ ∃ r' ∈ history ++ [r], r'.isAccepted = true ∧
      r'.declaration.owner = some i.host := by
  rw [get?_enter_of_place hp] at hi
  by_cases ho : owner = place.owner.name
  · subst ho
    rw [if_pos rfl, Option.some.injEq] at hi
    obtain ⟨hname, hhost, -⟩ := h.injectorOf place.owner
    rw [← hi, Injector.host_bindAll]
    refine ⟨hname, ?_⟩
    rcases hhost with heq | ⟨r', hr', hrest⟩
    · exact ⟨r, by simp, Sighting.isAccepted_iff.mpr ⟨place, hp⟩,
        by rw [heq, Declaration.place_owner hp]⟩
    · exact ⟨r', List.mem_append_left _ hr', hrest⟩
  · rw [if_neg ho] at hi
    obtain ⟨hname, r', hr', hrest⟩ := h.host owner i hi
    exact ⟨hname, r', List.mem_append_left _ hr', hrest⟩

/-- The injector of its class records its claims, and any other goes without them. -/
theorem Reflects.records_of_place (h : roster.Reflects history)
    (hp : r.declaration.placeAs r.kind = .ok place) {owner : String} {i : Injector}
    (hi : (roster.enter r).get? owner = some i) :
    i.Records fun kind => claimantsIn (history ++ [r]) kind owner := by
  rw [get?_enter_of_place hp] at hi
  intro kind
  by_cases ho : owner = place.owner.name
  · subst ho
    rw [if_pos rfl, Option.some.injEq] at hi
    obtain ⟨-, -, hrec⟩ := h.injectorOf place.owner
    have hbound := hrec.bindAll r.kind place.ids r.declaration kind
    rw [← hi]
    simpa only [claimantsIn_append_of_place hp, and_true] using hbound
  · rw [if_neg ho] at hi
    have hne : ¬ (r.kind = kind ∧ place.owner.name = owner) := fun hk => ho hk.2.symm
    simp only [claimantsIn_append_of_place hp, if_neg hne]
    exact h.records owner i hi kind

end

theorem Reflects.enter_of_place (h : roster.Reflects history) {r : Sighting} {place : Placed}
    (hp : r.declaration.placeAs r.kind = .ok place) :
    (roster.enter r).Reflects (history ++ [r]) where
  present := h.present_of_place hp
  host _ _ hi := h.host_of_place hp hi
  records _ _ hi := h.records_of_place hp hi

/-- One more sighting. -/
theorem Reflects.enter (h : roster.Reflects history) (r : Sighting) :
    (roster.enter r).Reflects (history ++ [r]) := by
  cases hp : r.declaration.placeAs r.kind with
  | ok place => exact h.enter_of_place hp
  | error reason =>
    refine h.enter_of_rejected (Bool.eq_false_iff.mpr fun hacc => ?_)
    obtain ⟨place, hplace⟩ := Sighting.isAccepted_iff.mp hacc
    rw [hp] at hplace
    cases hplace

/-- Any number of sightings. -/
theorem Reflects.foldl_enter (h : roster.Reflects history) (rs : List Sighting) :
    (rs.foldl Roster.enter roster).Reflects (history ++ rs) := by
  induction rs generalizing roster history with
  | nil => rw [List.append_nil]; exact h
  | cons r rest ih =>
    rw [List.foldl_cons, List.append_cons]
    exact ih (h.enter r)

/-- A whole round. -/
theorem Reflects.gatherInto (h : roster.Reflects history) (round : Round) :
    (round.gatherInto roster).roster.Reflects (history ++ round.sightings) := by
  rw [Round.gatherInto, Gathering.gather_roster]
  exact h.foldl_enter round.sightings

/-- Any number of rounds, gathered one after the other. -/
theorem reflects_gatherAll (rounds : List Round) :
    (gatherAll rounds).Reflects (rounds.flatMap Round.sightings) := by
  have hrun : ∀ (roster : Roster) (history : List Sighting), roster.Reflects history →
      (rounds.foldl (fun roster round => (round.gatherInto roster).roster) roster).Reflects
        (history ++ rounds.flatMap Round.sightings) := by
    induction rounds with
    | nil => intro roster history h; rw [List.flatMap_nil, List.append_nil]; exact h
    | cons round rest ih =>
      intro roster history h
      rw [List.foldl_cons, List.flatMap_cons, ← List.append_assoc]
      exact ih _ _ (h.gatherInto round)
  exact hrun .empty [] reflects_empty

end Roster

end ViewBinding
