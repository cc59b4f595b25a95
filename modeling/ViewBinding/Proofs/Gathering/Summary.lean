import ViewBinding.Proofs.Gathering.Reference

/-!
# The answers of a roster

What a roster says about a class, its views and its conflicts after any rounds, against the list of
everything that the rounds have reported.

* `Injector.mem_conflicts`: the conflicts of an injector are the disputed views of its tables.
* `Injector.conflicts_ordered`: they come table by table, and in each table by ascending view.
* `Roster.summarises_gatherAll`: all answers of a roster that rounds were gathered into.
-/

namespace ViewBinding

open Text

theorem toInt_lt_of_compare {a b : ViewId} (h : compare a b = .lt) : a.toInt < b.toInt :=
  Int32.lt_iff_toInt_lt.mp (compareOfLessAndEq_eq_lt.mp h)

namespace Injector

variable {i : Injector}

theorem mem_conflictsIn {table : BindingTable} {c : Conflict} :
    c ∈ i.conflictsIn table ↔ ∃ id set, (i.table table).disputed.get? id = some set ∧
      c = { owner := i.host.name, table, id, claimants := set.keys } := by
  simp only [conflictsIn, List.mem_map, Prod.exists, SortedMap.mem_entries_iff, eq_comm (a := c)]

/-- The conflicts of an injector are the disputed views of its tables. -/
theorem mem_conflicts {c : Conflict} :
    c ∈ i.conflicts ↔ ∃ set, (i.table c.table).disputed.get? c.id = some set ∧
      c.owner = i.host.name ∧ c.claimants = set.keys := by
  rw [conflicts, List.mem_append, mem_conflictsIn, mem_conflictsIn]
  constructor
  · rintro (⟨id, set, hs, rfl⟩ | ⟨id, set, hs, rfl⟩)
    · exact ⟨set, hs, rfl, rfl⟩
    · exact ⟨set, hs, rfl, rfl⟩
  · rintro ⟨set, hs, howner, hclaimants⟩
    obtain ⟨owner, table, id, claimants⟩ := c
    subst howner
    subst hclaimants
    cases table with
    | field => exact .inl ⟨id, set, hs, rfl⟩
    | handler => exact .inr ⟨id, set, hs, rfl⟩

end Injector

/-- The first conflict is in the fields and the second in the handlers, or both are in one table and
the first is about a smaller view. -/
def Conflict.Before (a b : Conflict) : Prop :=
  a.table = .field ∧ b.table = .handler ∨ a.table = b.table ∧ a.id.toInt < b.id.toInt

theorem Conflict.Before.ne {a b : Conflict} (h : a.Before b) :
    (a.table, a.id) ≠ (b.table, b.id) := by
  intro heq
  obtain ⟨ht, hid⟩ := Prod.mk.inj heq
  rcases h with ⟨ha, hb⟩ | ⟨-, hlt⟩
  · rw [ha, hb] at ht
    cases ht
  · rw [hid] at hlt
    exact absurd hlt (Int.lt_irrefl _)

namespace Injector

variable {i : Injector}

theorem conflictsIn_ordered (table : BindingTable) :
    (i.conflictsIn table).Pairwise Conflict.Before :=
  List.pairwise_map.mpr ((i.table table).disputed.ascending.imp fun hlt =>
    .inr ⟨rfl, toInt_lt_of_compare hlt⟩)

/-- Conflicts come table by table, and in each table by ascending view. -/
theorem conflicts_ordered : i.conflicts.Pairwise Conflict.Before := by
  rw [conflicts, List.pairwise_append]
  refine ⟨conflictsIn_ordered .field, conflictsIn_ordered .handler, fun a ha b hb => .inl ?_⟩
  obtain ⟨-, -, -, rfl⟩ := mem_conflictsIn.mp ha
  obtain ⟨-, -, -, rfl⟩ := mem_conflictsIn.mp hb
  exact ⟨rfl, rfl⟩

theorem Records.exists_conflict_iff {claims : AnnotationKind → ViewId → List Declaration}
    (h : i.Records claims) (kind : AnnotationKind) (id : ViewId) :
    (∃ c ∈ i.conflicts, c.table = kind.table ∧ c.id = id) ↔ Disagree (claims kind id) := by
  rw [← (h kind).disputed, Option.isSome_iff_exists]
  constructor
  · rintro ⟨c, hc, ht, rfl⟩
    obtain ⟨set, hs, -⟩ := mem_conflicts.mp hc
    exact ⟨set, ht ▸ hs⟩
  · rintro ⟨set, hs⟩
    exact ⟨⟨i.host.name, kind.table, id, set.keys⟩, mem_conflicts.mpr ⟨set, hs, rfl, rfl⟩, rfl, rfl⟩

theorem Records.mem_claimants_iff {claims : AnnotationKind → ViewId → List Declaration}
    (h : i.Records claims) {kind : AnnotationKind} {c : Conflict} (hc : c ∈ i.conflicts)
    (ht : c.table = kind.table) (key : String) :
    key ∈ c.claimants ↔ HasSymbol (claims kind c.id) key := by
  obtain ⟨set, hs, -, hkeys⟩ := mem_conflicts.mp hc
  rw [hkeys]
  exact (h kind).claimants c.id set (ht ▸ hs) key

end Injector

/-- The answers of a roster are those that the rounds, read as a whole, call for. -/
structure Roster.Summarises (roster : Roster) (rounds : List Round) : Prop where
  /-- There is an injector for exactly the classes with an accepted declaration. -/
  present : ∀ owner, (roster.get? owner).isSome ↔
    ∃ round ∈ rounds, ∃ kind, ∃ d ∈ round.reported kind,
      (∃ place, d.placeAs kind = .ok place) ∧ ∃ host, d.owner = some host ∧ host.name = owner
  /-- A view is bound to the first field that claims it. -/
  field : ∀ owner i, roster.get? owner = some i →
    ∀ id, i.field? id = (claimants rounds .bindView owner id).head?
  /-- A view is handled by the first method that claims it. -/
  handler : ∀ owner i, roster.get? owner = some i →
    ∀ id, i.handler? id = (claimants rounds .onClick owner id).head?
  /-- A view is in conflict exactly if two of its claimants go under different symbols. -/
  conflict : ∀ owner i, roster.get? owner = some i → ∀ (kind : AnnotationKind) id,
    (∃ c ∈ i.conflicts, c.table = kind.table ∧ c.id = id) ↔
      ∃ d ∈ claimants rounds kind owner id, ∃ e ∈ claimants rounds kind owner id,
        d.symbolKey ≠ e.symbolKey
  /-- A conflict names the symbols of all claimants, ascending and each once. -/
  claimants : ∀ owner i, roster.get? owner = some i →
    ∀ (kind : AnnotationKind), ∀ c ∈ i.conflicts, c.table = kind.table →
      c.owner = owner ∧ c.claimants.Pairwise ByteLess ∧
      ∀ key, key ∈ c.claimants ↔
        ∃ d ∈ ViewBinding.claimants rounds kind owner c.id, d.symbolKey = key
  /-- No view of a table is in conflict twice. -/
  distinct : ∀ owner i, roster.get? owner = some i →
    (i.conflicts.map fun c => (c.table, c.id)).Nodup
  /-- A bound declaration was accepted for the annotation of its table. -/
  bound_accepted : ∀ owner i, roster.get? owner = some i → ∀ (kind : AnnotationKind) id d,
    (i.table kind.table).get? id = some d →
      ∃ round ∈ rounds, d ∈ round.reported kind ∧ ∃ place, d.placeAs kind = .ok place
  /-- So was the declaration behind each symbol of a conflict. -/
  claimant_accepted : ∀ owner i, roster.get? owner = some i →
    ∀ (kind : AnnotationKind), ∀ c ∈ i.conflicts, c.table = kind.table → ∀ key ∈ c.claimants,
      ∃ round ∈ rounds, ∃ d ∈ round.reported kind, d.symbolKey = key ∧
        ∃ place, d.placeAs kind = .ok place

namespace Roster

theorem records_gatherAll {rounds : List Round} {owner : String} {i : Injector}
    (h : (gatherAll rounds).get? owner = some i) :
    i.Records fun kind => claimants rounds kind owner := by
  have hrec := (reflects_gatherAll rounds).records owner i h
  simp only [claimantsIn_sightings] at hrec
  exact hrec

theorem isSome_gatherAll_iff {rounds : List Round} {owner : String} :
    ((gatherAll rounds).get? owner).isSome ↔
      ∃ round ∈ rounds, ∃ kind, ∃ d ∈ round.reported kind,
        (∃ place, d.placeAs kind = .ok place) ∧
          ∃ host, d.owner = some host ∧ host.name = owner := by
  rw [(reflects_gatherAll rounds).present]
  constructor
  · rintro ⟨r, hr, hacc, hhost⟩
    obtain ⟨round, hround, hr⟩ := List.mem_flatMap.mp hr
    exact ⟨round, hround, r.kind, r.declaration, Round.mem_sightings.mp hr,
      Sighting.isAccepted_iff.mp hacc, hhost⟩
  · rintro ⟨round, hround, kind, d, hd, hplace, hhost⟩
    exact ⟨⟨kind, d⟩, List.mem_flatMap.mpr ⟨round, hround, Round.mem_sightings.mpr hd⟩,
      Sighting.isAccepted_iff.mpr hplace, hhost⟩

/-- However many rounds are gathered into a roster without clearing it, its answers are those that
the rounds call for. -/
theorem summarises_gatherAll (rounds : List Round) : (gatherAll rounds).Summarises rounds where
  present owner := isSome_gatherAll_iff
  field owner i hi id := (records_gatherAll hi .bindView).bound id
  handler owner i hi id := (records_gatherAll hi .onClick).bound id
  conflict owner i hi kind id := (records_gatherAll hi).exists_conflict_iff kind id
  claimants owner i hi kind c hc ht := by
    obtain ⟨set, -, howner, hkeys⟩ := Injector.mem_conflicts.mp hc
    refine ⟨?_, ?_, (records_gatherAll hi).mem_claimants_iff hc ht⟩
    · rw [howner]
      exact ((reflects_gatherAll rounds).host owner i hi).1
    · rw [hkeys]
      exact set.keys_ascending.imp byteLess_of_compare
  distinct owner i hi :=
    List.pairwise_map.mpr (Injector.conflicts_ordered.imp Conflict.Before.ne)
  bound_accepted owner i hi kind id d hd := by
    rw [(records_gatherAll hi kind).bound] at hd
    obtain ⟨round, hround, hrep, hclaims⟩ := mem_claimants.mp (List.mem_of_mem_head? hd)
    exact ⟨round, hround, hrep, (Declaration.claims_iff.mp hclaims).1⟩
  claimant_accepted owner i hi kind c hc ht key hkey := by
    obtain ⟨d, hd, rfl⟩ := ((records_gatherAll hi).mem_claimants_iff hc ht key).mp hkey
    obtain ⟨round, hround, hrep, hclaims⟩ := mem_claimants.mp hd
    exact ⟨round, hround, d, hrep, rfl, (Declaration.claims_iff.mp hclaims).1⟩

end Roster

end ViewBinding
