import ViewBinding.Proofs.Gathering.Summary

/-!
# Sightings in another order

Where classes go by their names and members by their symbols, the order of the sightings decides
nothing but which of several claimants of a disputed view is bound, and a class with a disputed view
is not generated at all. So the injectors of two rosters that reflect the same sightings in
different orders are settled alike.

* `IdTable.Records.disputed_eq`: the disputed views of a table do not depend on the order.
* `IdTable.Records.bound_eq`: without a disputed view, the bound declarations do not either.
* `Roster.Reflects.alike`: the injectors of two rosters, one by one.
-/

namespace ViewBinding

theorem hasSymbol_perm {ds es : List Declaration} (h : ds.Perm es) (key : String) :
    HasSymbol ds key ↔ HasSymbol es key := by
  simp only [HasSymbol, h.mem_iff]

/-- The first elements of a list in two orders, seen through a function that takes all its elements
to one value. -/
theorem map_head?_of_perm {α β : Type*} {f : α → β} {xs ys : List α} (h : xs.Perm ys)
    (hf : ∀ x ∈ xs, ∀ y ∈ xs, f x = f y) : xs.head?.map f = ys.head?.map f := by
  cases xs with
  | nil => rw [List.nil_perm.mp h]
  | cons x xs =>
    cases ys with
    | nil => cases h.eq_nil
    | cons y ys =>
      have hy : y ∈ x :: xs := h.mem_iff.mpr List.mem_cons_self
      exact congrArg some (hf x List.mem_cons_self y hy)

namespace IdTable

variable {t t' : IdTable} {claims claims' : ViewId → List Declaration}

/-- The disputed views, with their claimants, are determined by the symbols that claim each view. -/
theorem Records.disputed_eq (h : t.Records claims) (h' : t'.Records claims')
    (hkeys : ∀ id key, HasSymbol (claims id) key ↔ HasSymbol (claims' id) key) :
    t.disputed = t'.disputed := by
  refine SortedMap.ext_get? fun id => ?_
  have hiff : (t.disputed.get? id).isSome ↔ (t'.disputed.get? id).isSome := by
    rw [h.disputed, h'.disputed, disagree_congr (hkeys id)]
  cases hs : t.disputed.get? id with
  | none =>
    rw [hs] at hiff
    exact (Option.not_isSome_iff_eq_none.mp fun hs' => absurd (hiff.mpr hs') (by simp)).symm
  | some set =>
    rw [hs] at hiff
    obtain ⟨set', hs'⟩ := Option.isSome_iff_exists.mp (hiff.mp rfl)
    have hset : set = set' := SortedMap.ext_keys fun key => by
      rw [h.claimants id set hs, h'.claimants id set' hs', hkeys]
    rw [hs', hset]

/-- Where the claimants of each view are one declaration, reported once or several times, it is
bound whatever the order. -/
theorem Records.bound_eq (h : t.Records claims) (h' : t'.Records claims')
    (hperm : ∀ id, (claims id).Perm (claims' id))
    (hone : ∀ id, ∀ d ∈ claims id, ∀ e ∈ claims id, d = e) : t.bound = t'.bound := by
  refine SortedMap.ext_get? fun id => ?_
  show t.get? id = t'.get? id
  rw [h.bound, h'.bound]
  have hhead := map_head?_of_perm (f := fun d => d) (hperm id) (hone id)
  rwa [Option.map_id', Option.map_id'] at hhead

end IdTable

namespace Injector

/-- The injectors are settled alike: they belong to one class, and have the same conflicts or are
equal. -/
structure Alike (i i' : Injector) : Prop where
  host : i.host = i'.host
  conflicts : i.conflicts = i'.conflicts
  same : i.conflicts = [] → i = i'

variable {i i' : Injector} {claims claims' : AnnotationKind → ViewId → List Declaration}

theorem hasConflicts_congr (h : i.conflicts = i'.conflicts) :
    i.hasConflicts = i'.hasConflicts := by
  rw [Bool.eq_iff_iff, ← not_iff_not, Bool.not_eq_true, Bool.not_eq_true,
    hasConflicts_eq_false_iff, hasConflicts_eq_false_iff, h]

/-- Without conflicts, all claimants of a view go under one symbol. -/
theorem Records.symbolKey_eq (h : i.Records claims) (hnil : i.conflicts = [])
    {kind : AnnotationKind} {id : ViewId} {d e : Declaration} (hd : d ∈ claims kind id)
    (he : e ∈ claims kind id) : d.symbolKey = e.symbolKey := by
  by_contra hne
  obtain ⟨c, hc, -⟩ := (h.exists_conflict_iff kind id).mpr ⟨d, hd, e, he, hne⟩
  rw [hnil] at hc
  cases hc

/-- The disputed views of a table do not depend on the order of the claims. -/
theorem Records.disputed_table_eq (h : i.Records claims) (h' : i'.Records claims')
    (hperm : ∀ kind id, (claims kind id).Perm (claims' kind id)) (kind : AnnotationKind) :
    (i.table kind.table).disputed = (i'.table kind.table).disputed :=
  (h kind).disputed_eq (h' kind) fun id key => hasSymbol_perm (hperm kind id) key

/-- Nor do the conflicts of a class. -/
theorem Records.conflicts_eq (h : i.Records claims) (h' : i'.Records claims')
    (hname : i.host.name = i'.host.name)
    (hperm : ∀ kind id, (claims kind id).Perm (claims' kind id)) : i.conflicts = i'.conflicts := by
  have hfield : i.fields.disputed = i'.fields.disputed := h.disputed_table_eq h' hperm .bindView
  have hhandler : i.handlers.disputed = i'.handlers.disputed :=
    h.disputed_table_eq h' hperm .onClick
  simp only [conflicts, conflictsIn, table, hname, hfield, hhandler]

/-- Injectors of one class that record the same claims in different orders. -/
theorem Records.alike (h : i.Records claims) (h' : i'.Records claims') (hhost : i.host = i'.host)
    (hperm : ∀ kind id, (claims kind id).Perm (claims' kind id))
    (hmember : ∀ kind id, ∀ d ∈ claims kind id, ∀ e ∈ claims kind id,
      d.symbolKey = e.symbolKey → d = e) : i.Alike i' := by
  have hfield : i.fields.disputed = i'.fields.disputed := h.disputed_table_eq h' hperm .bindView
  have hhandler : i.handlers.disputed = i'.handlers.disputed :=
    h.disputed_table_eq h' hperm .onClick
  refine ⟨hhost, h.conflicts_eq h' (congrArg HostClass.name hhost) hperm, fun hnil => ?_⟩
  -- Claimants of an undisputed view have one symbol, and so are one declaration.
  have hbound (kind : AnnotationKind) :
      (i.table kind.table).bound = (i'.table kind.table).bound := by
    refine (h kind).bound_eq (h' kind) (hperm kind) fun id d hd e he => ?_
    exact hmember kind id d hd e he (h.symbolKey_eq hnil hd he)
  have hfieldBound : i.fields.bound = i'.fields.bound := hbound .bindView
  have hhandlerBound : i.handlers.bound = i'.handlers.bound := hbound .onClick
  obtain ⟨host, ⟨bound, disputed⟩, ⟨bound₂, disputed₂⟩⟩ := i
  obtain ⟨host', ⟨bound', disputed'⟩, ⟨bound₂', disputed₂'⟩⟩ := i'
  cases hhost
  cases hfield
  cases hhandler
  cases hfieldBound
  cases hhandlerBound
  rfl

end Injector

/-! ## Declarations with an identity -/

/-- Classes go by their names, and the fields and methods of a class by their symbols. -/
structure Identified (ds : List Declaration) : Prop where
  host : ∀ d ∈ ds, ∀ e ∈ ds, ∀ h h', d.owner = some h → e.owner = some h' → h.name = h'.name →
    h = h'
  member : ∀ d ∈ ds, ∀ e ∈ ds, ∀ kind kind' : AnnotationKind, d.kind = kind.target →
    e.kind = kind'.target → d.owner = e.owner → d.symbolKey = e.symbolKey → d = e

theorem Identified.mono {ds es : List Declaration} (h : Identified ds) (hsub : ∀ d ∈ es, d ∈ ds) :
    Identified es where
  host d hd e he := h.host d (hsub d hd) e (hsub e he)
  member d hd e he := h.member d (hsub d hd) e (hsub e he)

/-- Claimants of a class with one symbol are one declaration. -/
theorem Identified.eq_of_claims {ds : List Declaration} (h : Identified ds) {kind : AnnotationKind}
    {owner : String} {id : ViewId} {d e : Declaration} (hd : d ∈ ds) (he : e ∈ ds)
    (hdc : d.claims kind owner id = true) (hec : e.claims kind owner id = true)
    (hkey : d.symbolKey = e.symbolKey) : d = e := by
  obtain ⟨⟨place, hplace⟩, ⟨host, hhost, hname⟩, -⟩ := Declaration.claims_iff.mp hdc
  obtain ⟨⟨place', hplace'⟩, ⟨host', hhost', hname'⟩, -⟩ := Declaration.claims_iff.mp hec
  have hsame : host = host' := h.host d hd e he host host' hhost hhost' (hname.trans hname'.symm)
  exact h.member d hd e he kind kind (Declaration.place_target hplace)
    (Declaration.place_target hplace') (by rw [hhost, hhost', hsame]) hkey

namespace Roster

variable {roster roster' : Roster} {history history' : List Sighting}

theorem mem_claimantsIn {kind : AnnotationKind} {owner : String} {id : ViewId} {d : Declaration} :
    d ∈ claimantsIn history kind owner id ↔
      ⟨kind, d⟩ ∈ history ∧ d.claims kind owner id = true := by
  simp only [claimantsIn, List.mem_map, List.mem_filter, Sighting.claims, Bool.and_eq_true,
    decide_eq_true_eq]
  constructor
  · rintro ⟨⟨_, _⟩, ⟨hr, rfl, hc⟩, rfl⟩
    exact ⟨hr, hc⟩
  · rintro ⟨hr, hc⟩
    exact ⟨⟨kind, d⟩, ⟨hr, rfl, hc⟩, rfl⟩

/-- Rosters that reflect the same sightings in different orders have injectors for the same
classes. -/
theorem Reflects.rel_get? (h : roster.Reflects history) (h' : roster'.Reflects history')
    (hperm : history.Perm history') (owner : String) {R : Injector → Injector → Prop}
    (hR : ∀ i i', roster.get? owner = some i → roster'.get? owner = some i' → R i i') :
    Option.Rel R (roster.get? owner) (roster'.get? owner) := by
  have hpresent : (roster.get? owner).isSome ↔ (roster'.get? owner).isSome := by
    rw [h.present, h'.present]
    simp only [hperm.mem_iff]
  cases hg : roster.get? owner with
  | none =>
    rw [hg] at hpresent
    have hg' : roster'.get? owner = none :=
      Option.not_isSome_iff_eq_none.mp fun hs => absurd (hpresent.mpr hs) (by simp)
    rw [hg']
    exact .none
  | some i =>
    rw [hg] at hpresent
    obtain ⟨i', hg'⟩ := Option.isSome_iff_exists.mp (hpresent.mp rfl)
    rw [hg']
    exact .some (hR i i' hg hg')

/-- The injectors of two rosters that reflect the same sightings in different orders. -/
theorem Reflects.alike (h : roster.Reflects history) (h' : roster'.Reflects history')
    (hperm : history.Perm history') (hid : Identified (history.map (·.declaration))) :
    List.Forall₂ Injector.Alike roster.values roster'.values := by
  refine SortedMap.forall₂_values fun owner => h.rel_get? h' hperm owner fun i i' hg hg' => ?_
  obtain ⟨hname, r, hr, -, howner⟩ := h.host owner i hg
  obtain ⟨hname', r', hr', -, howner'⟩ := h'.host owner i' hg'
  have hhost : i.host = i'.host := hid.host _ (List.mem_map_of_mem hr) _
    (List.mem_map_of_mem (hperm.mem_iff.mpr hr')) _ _ howner howner' (hname.trans hname'.symm)
  refine (h.records owner i hg).alike (h'.records owner i' hg') hhost
    (fun kind id => (hperm.filter _).map _) fun kind id d hd e he hkey => ?_
  obtain ⟨hd, hdc⟩ := mem_claimantsIn.mp hd
  obtain ⟨he, hec⟩ := mem_claimantsIn.mp he
  exact hid.eq_of_claims (List.mem_map_of_mem hd) (List.mem_map_of_mem he) hdc hec hkey

end Roster

end ViewBinding
