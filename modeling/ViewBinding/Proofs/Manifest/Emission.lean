import ViewBinding.Proofs.Injector.Names
import ViewBinding.Proofs.Manifest.Complaints
import ViewBinding.Proofs.Manifest.Completeness
import ViewBinding.Proofs.Session.Emission

/-!
# Which classes of a valid manifest are generated

A class with an accepted member and no disputed view is bindable. The dry build of a valid manifest
generates every bindable class but for two kinds: those whose injector would be named by a reserved
word, and those that come after a bindable class whose injector has the same qualified name. These
fail, and no other class does.

* `ClassEntry.Bindable`, `Manifest.Hindered`: both conditions, said without a build.
* `Manifest.bindable_iff`: the bindable classes are those with an injector without conflicts.
* `Manifest.emission_of_valid`: the generated and the failed classes of a dry build.
-/

namespace ViewBinding

open Text

namespace ClassEntry

/-- Some member of the class is accepted, and no two of them dispute a view. -/
structure Bindable (c : ClassEntry) : Prop where
  accepted : ∃ d ∈ c.declarations, ∃ kind place, d.placeAs kind = .ok place
  agreed : ∀ kind id, ∀ d ∈ c.declarations, ∀ e ∈ c.declarations,
    d.claims kind c.name id = true → e.claims kind c.name id = true → d.symbolKey = e.symbolKey

/-- The qualified name of the injector of the class. -/
def generatedName (c : ClassEntry) (settings : Settings) : String :=
  c.host.injectorQualifiedName settings.classSuffix

variable {c : ClassEntry}

/-- A valid class lies in its package, given or not. -/
theorem Valid.liesInPackage (h : c.Valid) : c.host.LiesInPackage := by
  obtain ⟨-, hinside, -⟩ := c.valid_iff.mp h
  unfold host
  -- A package that is left out is cut off the name, and a given one was checked against it.
  cases hp : c.package with
  | none => exact HostClass.liesInPackage_ofName c.name
  | some package =>
    by_cases hempty : package = ""
    · exact .inl hempty
    · obtain ⟨-, rest, hrest⟩ := hinside package hp hempty
      refine .inr ⟨rest, ?_⟩
      show c.name.toList = _
      rw [← hrest, List.append_assoc]
      rfl

end ClassEntry

/-- The suffix of valid settings holds identifier characters only. -/
theorem Settings.isIdentifierPart_of_check {settings : Settings} (h : settings.check = .ok ()) :
    ∀ c ∈ settings.classSuffix.toList, Java.isIdentifierPart c = true := by
  rw [check, Problems.result_eq_ok_iff, problems, List.filterMap_eq_nil_iff] at h
  have hsuffix : settings.suffixProblem? = none := h _ List.mem_cons_self
  unfold suffixProblem? at hsuffix
  split at hsuffix
  · cases hsuffix
  · split at hsuffix
    · cases hsuffix
    · next hall => simpa using hall

namespace Manifest

variable {m : Manifest} {settings : Settings} {c : ClassEntry} {i : Injector}

/-- The class is not generated: its injector is named by a reserved word, or a bindable class that
comes earlier has an injector of the same qualified name. -/
def Hindered (m : Manifest) (settings : Settings) (c : ClassEntry) : Prop :=
  Java.isReserved (c.host.injectorName settings.classSuffix) = true ∨
    ∃ e ∈ m.classes, ByteLess e.name c.name ∧ e.Bindable ∧
      e.generatedName settings = c.generatedName settings

/-! ## Bindable classes -/

/-- The sightings of a class are those of its members. -/
theorem mem_sightings_of_owner (hm : m.Valid) (hc : c ∈ m.classes) {r : Sighting} {host : HostClass}
    (howner : r.declaration.owner = some host) (hname : host.name = c.name) :
    r ∈ m.round.sightings ↔
      r.declaration ∈ c.declarations ∧ (r.declaration.annotationOf? r.kind).isSome := by
  rw [Round.mem_sightings]
  refine List.mem_filter.trans (and_congr_left fun _ => ?_)
  rw [mem_declarations]
  constructor
  · rintro ⟨c', hc', e, he, heq⟩
    rw [heq] at howner
    have hhost : c'.host = host := Option.some.inj howner
    have hsame : c'.name = c.name := by rw [← hname, ← hhost, ClassEntry.host_name]
    cases hm.class_eq hc' hc hsame
    exact List.mem_map.mpr ⟨e, he, heq.symm⟩
  · intro hd
    obtain ⟨e, he, heq⟩ := List.mem_map.mp hd
    exact ⟨c, hc, e, he, heq.symm⟩

/-- The claimants of a view of a class are its members that claim it. -/
theorem mem_claimantsIn_class (hm : m.Valid) (hc : c ∈ m.classes) {kind : AnnotationKind}
    {id : ViewId} {d : Declaration} :
    d ∈ claimantsIn m.round.sightings kind c.name id ↔
      d ∈ c.declarations ∧ d.claims kind c.name id = true := by
  rw [Roster.mem_claimantsIn]
  refine and_congr_left fun hclaims => ?_
  obtain ⟨-, ⟨host, hhost, hname⟩, found, hfound, -⟩ := Declaration.claims_iff.mp hclaims
  rw [mem_sightings_of_owner hm hc (r := ⟨kind, d⟩) hhost hname]
  exact and_iff_left (Option.isSome_of_eq_some hfound)

/-- There is an injector for a class exactly if a member of it is accepted. -/
theorem isSome_roster_iff (hm : m.Valid) (hc : c ∈ m.classes) :
    (m.roster.get? c.name).isSome ↔
      ∃ d ∈ c.declarations, ∃ kind place, d.placeAs kind = .ok place := by
  rw [m.reflects_roster.present]
  constructor
  · rintro ⟨r, hr, hacc, host, hhost, hname⟩
    obtain ⟨place, hplace⟩ := Sighting.isAccepted_iff.mp hacc
    exact ⟨_, ((mem_sightings_of_owner hm hc hhost hname).mp hr).1, r.kind, place, hplace⟩
  · rintro ⟨d, hd, kind, place, hplace⟩
    obtain ⟨e, -, rfl⟩ := List.mem_map.mp hd
    obtain ⟨-, hfound⟩ := Declaration.placeAs_eq_ok hplace
    have hsome := Option.isSome_map.symm.trans (Option.isSome_of_eq_some hfound)
    refine ⟨⟨kind, _⟩, ?_, Sighting.isAccepted_iff.mpr ⟨place, hplace⟩, c.host, rfl, c.host_name⟩
    exact (mem_sightings_of_owner hm hc rfl c.host_name).mpr ⟨hd, hsome⟩

/-- An injector has no conflicts exactly if the members of its class dispute no view. -/
theorem conflicts_eq_nil_iff (hm : m.Valid) (hc : c ∈ m.classes)
    (hi : m.roster.get? c.name = some i) :
    i.conflicts = [] ↔ ∀ kind id, ∀ d ∈ c.declarations, ∀ e ∈ c.declarations,
      d.claims kind c.name id = true → e.claims kind c.name id = true →
        d.symbolKey = e.symbolKey := by
  have hrec := m.reflects_roster.records c.name i hi
  constructor
  · intro hnil kind id d hd e he hdc hec
    exact hrec.symbolKey_eq hnil ((mem_claimantsIn_class hm hc).mpr ⟨hd, hdc⟩)
      ((mem_claimantsIn_class hm hc).mpr ⟨he, hec⟩)
  · intro hagreed
    refine List.eq_nil_iff_forall_not_mem.mpr fun x hx => ?_
    -- Each table belongs to one annotation, so a conflict is about claims of one kind.
    obtain ⟨kind, hkind⟩ : ∃ kind : AnnotationKind, x.table = kind.table := by
      cases x.table with
      | field => exact ⟨.bindView, rfl⟩
      | handler => exact ⟨.onClick, rfl⟩
    obtain ⟨d, hd, e, he, hne⟩ := (hrec.exists_conflict_iff kind x.id).mp ⟨x, hx, hkind, rfl⟩
    obtain ⟨hd, hdc⟩ := (mem_claimantsIn_class hm hc).mp hd
    obtain ⟨he, hec⟩ := (mem_claimantsIn_class hm hc).mp he
    exact hne (hagreed kind x.id d hd e he hdc hec)

/-- The bindable classes are those with an injector without conflicts. -/
theorem bindable_iff (hm : m.Valid) (hc : c ∈ m.classes) :
    c.Bindable ↔ ∃ i, m.roster.get? c.name = some i ∧ i.conflicts = [] := by
  constructor
  · rintro ⟨haccepted, hagreed⟩
    obtain ⟨i, hi⟩ := Option.isSome_iff_exists.mp ((isSome_roster_iff hm hc).mpr haccepted)
    exact ⟨i, hi, (conflicts_eq_nil_iff hm hc hi).mpr hagreed⟩
  · rintro ⟨i, hi, hnil⟩
    exact ⟨(isSome_roster_iff hm hc).mp (Option.isSome_of_eq_some hi),
      (conflicts_eq_nil_iff hm hc hi).mp hnil⟩

/-- Every injector belongs to a class of the manifest. -/
theorem exists_class_of_mem_values (hi : i ∈ m.roster.values) :
    ∃ c ∈ m.classes, m.roster.get? c.name = some i ∧ i.host = c.host := by
  obtain ⟨owner, hget⟩ := SortedMap.mem_values_iff.mp hi
  obtain ⟨hname, r, hr, -, howner⟩ := m.reflects_roster.host owner i hget
  obtain ⟨c, hc, e, -, heq, -⟩ := exists_marked_of_mem_sightings hr
  rw [heq] at howner
  have hhost : c.host = i.host := Option.some.inj howner
  rw [← hname, ← hhost, ClassEntry.host_name] at hget
  exact ⟨c, hc, hget, hhost.symm⟩

/-! ## Names -/

section

variable (hm : m.Valid) (hs : settings.check = .ok ()) (hc : c ∈ m.classes)

include hm hs hc

/-- The injector of a valid class has a legal simple name unless that is a reserved word. -/
theorem isIdentifier_injectorName_iff :
    Java.IsIdentifier (c.host.injectorName settings.classSuffix) ↔
      Java.isReserved (c.host.injectorName settings.classSuffix) = false :=
  (hm.classes c hc).liesInPackage.isIdentifier_injectorName_iff
    (c.host_name ▸ (hm.classes c hc).name) (Settings.isIdentifierPart_of_check hs)

omit hs in
/-- With a legal simple name the qualified one is legal as well. -/
theorem isQualifiedName_generatedName
    (hid : Java.IsIdentifier (c.host.injectorName settings.classSuffix)) :
    Java.IsQualifiedName (c.generatedName settings) :=
  (hm.classes c hc).liesInPackage.isQualifiedName_injectorQualifiedName
    (c.host_name ▸ (hm.classes c hc).name) hid

theorem injectorName_eq_of_generatedName_eq {e : ClassEntry} (he : e ∈ m.classes)
    (heq : e.generatedName settings = c.generatedName settings) :
    e.host.injectorName settings.classSuffix = c.host.injectorName settings.classSuffix :=
  (hm.classes e he).liesInPackage.injectorName_eq (hm.classes c hc).liesInPackage
    (e.host_name ▸ (hm.classes e he).name) (c.host_name ▸ (hm.classes c hc).name)
    (Settings.isIdentifierPart_of_check hs) heq

omit hs in
/-- Without `$` in their names, different classes have injectors with different qualified names. -/
theorem class_eq_of_generatedName_eq {e : ClassEntry} (he : e ∈ m.classes)
    (hdc : '$' ∉ c.name.toList) (hde : '$' ∉ e.name.toList)
    (heq : c.generatedName settings = e.generatedName settings) : c = e := by
  refine hm.class_eq hc he ?_
  rw [← c.host_name, ← e.host_name]
  exact (hm.classes c hc).liesInPackage.name_eq (hm.classes e he).liesInPackage
    (c.host_name.symm ▸ hdc) (e.host_name.symm ▸ hde) heq

/-! ## Verdicts -/

/-- A bindable class is not hindered exactly if its injector has a source and a store takes it that
holds the names of the injectors before it. -/
theorem not_hindered_iff (hi : m.roster.get? c.name = some i) (hnil : i.conflicts = [])
    {st : MemoryStore} (hrefused : st.refused = [])
    (hholds : ∀ name, Java.IsQualifiedName name → (st.Holds name ↔ ∃ j ∈ m.roster.values,
      ByteLess j.host.name c.name ∧ j.HasSource settings ∧
        j.host.injectorQualifiedName settings.classSuffix = name)) :
    ¬ m.Hindered settings c ↔
      i.HasSource settings ∧ st.Takes (i.host.injectorQualifiedName settings.classSuffix) := by
  have hhost : i.host = c.host := host_eq hm hc hi
  have hlegal := isIdentifier_injectorName_iff hm hs hc
  unfold Injector.HasSource MemoryStore.Takes Hindered
  rw [hhost, hlegal, hrefused, not_or, Bool.not_eq_true]
  -- The store holds the names of earlier injectors with a source: those of earlier bindable
  -- classes, as a name that is taken twice has the simple name of both.
  constructor
  · rintro ⟨hfree, hnone⟩
    have hname := isQualifiedName_generatedName hm hc (hlegal.mpr hfree)
    refine ⟨⟨hnil, hfree⟩, hname, List.not_mem_nil, fun hheld => hnone ?_⟩
    obtain ⟨j, hj, hlt, ⟨hjnil, -⟩, heq⟩ := (hholds _ hname).mp hheld
    obtain ⟨e, he, hget, hjhost⟩ := exists_class_of_mem_values hj
    rw [hjhost] at hlt heq
    exact ⟨e, he, e.host_name ▸ hlt, (bindable_iff hm he).mpr ⟨j, hget, hjnil⟩, heq⟩
  · rintro ⟨⟨-, hfree⟩, hname, -, hnew⟩
    refine ⟨hfree, ?_⟩
    rintro ⟨e, he, hlt, hbindable, heq⟩
    obtain ⟨j, hget, hjnil⟩ := (bindable_iff hm he).mp hbindable
    have hjhost : j.host = e.host := host_eq hm he hget
    have hsame := injectorName_eq_of_generatedName_eq hm hs hc he heq
    have hid : Java.IsIdentifier (j.host.injectorName settings.classSuffix) := by
      rw [hjhost, hsame]
      exact hlegal.mpr hfree
    have hj : j ∈ m.roster.values := SortedMap.mem_values_iff.mpr ⟨_, hget⟩
    refine hnew ((hholds _ hname).mpr ⟨j, hj, ?_, ⟨hjnil, hid⟩, ?_⟩)
    · rw [hjhost, e.host_name]
      exact hlt
    · rw [hjhost]
      exact heq

/-- The verdict on a class with an injector. -/
theorem exists_verdict (hi : m.roster.get? c.name = some i) :
    ∃ v : HostClass × Verdict, (m.verdicts settings).filter (·.1.name = c.name) = [v] ∧
      (v.2.generated?.isSome = true ↔ i.conflicts = [] ∧ ¬ m.Hindered settings c) ∧
      (v.2.isFailed = true ↔ i.conflicts = [] ∧ m.Hindered settings c) := by
  have hname : i.host.name = c.name := by rw [host_eq hm hc hi, c.host_name]
  -- Classes are settled in the order of their names, so the store before one knows the earlier
  -- ones.
  have hsorted : (m.roster.values.map (·.host.name)).Pairwise ByteLess := by
    rw [m.reflects_roster.names_eq]
    exact m.roster.keys_ascending.imp byteLess_of_compare
  obtain ⟨st, hverdict, hrefused, hholds⟩ := (m.session settings).exists_store_of_mem hsorted
    (SortedMap.mem_values_iff.mpr ⟨_, hi⟩) {}
  rw [hname] at hverdict hholds
  have hstore : ∀ name, Java.IsQualifiedName name → (st.Holds name ↔ ∃ j ∈ m.roster.values,
      ByteLess j.host.name c.name ∧ j.HasSource settings ∧
        j.host.injectorQualifiedName settings.classSuffix = name) := fun name hlegal =>
    (hholds name hlegal List.not_mem_nil).trans (or_iff_right (by simp [MemoryStore.Holds]))
  have hgenerated :
      ((m.session settings).settle MemoryStore.store i st).1.2.generated?.isSome = true ↔
        i.conflicts = [] ∧ ¬ m.Hindered settings c := by
    rw [Session.isSome_generated?_settle_iff]
    constructor
    · intro hboth
      exact ⟨hboth.1.1, (not_hindered_iff hm hs hc hi hboth.1.1 hrefused hstore).mpr hboth⟩
    · rintro ⟨hnil, hfree⟩
      exact (not_hindered_iff hm hs hc hi hnil hrefused hstore).mp hfree
  refine ⟨_, hverdict, hgenerated, ?_⟩
  rw [Session.isFailed_settle_iff, Bool.eq_false_iff, Ne, hgenerated]
  exact and_congr_right fun hnil => by simp [hnil]

/-- The lists of an outcome that hold a class. -/
theorem mem_lists_iff (number : Nat) (tally : Tally) :
    let first := Outcome.ofVerdicts number tally (m.verdicts settings)
    (c.name ∈ first.failed ↔ c.Bindable ∧ m.Hindered settings c) ∧
      (c.name ∈ first.generated.map (·.owner) ↔ c.Bindable ∧ ¬ m.Hindered settings c) := by
  simp only [Outcome.ofVerdicts, Outcome.generated_owners (m.settled_verdicts settings),
    Session.mem_names_filter_iff, bindable_iff hm hc]
  cases hi : m.roster.get? c.name with
  | none =>
    have hkey : c.name ∉ (m.verdicts settings).map (·.1.name) := by
      rw [Outcome.names_eq (m.settled_verdicts settings), m.reflects_roster.names_eq,
        SortedMap.mem_keys_iff_isSome, hi]
      exact Bool.false_ne_true
    simp [Session.filter_name_eq_nil hkey]
  | some i =>
    obtain ⟨v, hv, hgenerated, hfailed⟩ := exists_verdict hm hs hc hi
    simp [hv, hgenerated, hfailed]

end

/-- What becomes of the classes of a valid manifest in the first round of a dry build. -/
structure Emits (m : Manifest) (settings : Settings) (first : Outcome) : Prop where
  /-- A class fails exactly if it is bindable and hindered. -/
  failed : ∀ c ∈ m.classes, c.name ∈ first.failed ↔ c.Bindable ∧ m.Hindered settings c
  /-- Any other bindable class is generated, and no class that is not bindable. -/
  generated : ∀ c ∈ m.classes,
    c.name ∈ first.generated.map (·.owner) ↔ c.Bindable ∧ ¬ m.Hindered settings c
  /-- Nothing else fails. -/
  failed_class : ∀ name ∈ first.failed, ∃ c ∈ m.classes, c.name = name
  /-- The simple name of an injector is legal unless it is a reserved word. -/
  legal : ∀ c ∈ m.classes, Java.IsIdentifier (c.host.injectorName settings.classSuffix) ↔
    Java.isReserved (c.host.injectorName settings.classSuffix) = false
  /-- Classes without `$` in their names have injectors with names of their own. -/
  distinct : ∀ c ∈ m.classes, ∀ e ∈ m.classes, '$' ∉ c.name.toList → '$' ∉ e.name.toList →
    c.generatedName settings = e.generatedName settings → c = e
  /-- Nothing fails where no class has a `$` in its name and no injector is named by a reserved
  word. -/
  none_failed : (∀ c ∈ m.classes, '$' ∉ c.name.toList ∧
    Java.isReserved (c.host.injectorName settings.classSuffix) = false) → first.failed = []

/-- The dry build of a valid manifest with valid settings comes to a report. Its first round
generates the bindable classes that are not hindered, and exactly the others of them fail. -/
theorem emission_of_valid (hm : m.check = .ok ()) (hs : settings.check = .ok ()) :
    ∃ r first, checkManifest m settings = .ok r ∧ r.rounds.head? = some first ∧
      m.Emits settings first := by
  have hvalid := check_eq_ok_iff.mp hm
  refine ⟨m.report settings, _, checkManifest_eq hs, rfl, ?_⟩
  have hlists {c : ClassEntry} (hc : c ∈ m.classes) :=
    mem_lists_iff hvalid hs hc 1 (m.round.gatherInto .empty).tally
  have hclass : ∀ name ∈ (m.verdicts settings).map (·.1.name), ∃ c ∈ m.classes, c.name = name := by
    intro name hname
    rw [Outcome.names_eq (m.settled_verdicts settings)] at hname
    obtain ⟨i, hi, rfl⟩ := List.mem_map.mp hname
    obtain ⟨c, hc, -, hhost⟩ := exists_class_of_mem_values hi
    exact ⟨c, hc, by rw [hhost, c.host_name]⟩
  have hfailed : ∀ name ∈ ((m.verdicts settings).filter (·.2.isFailed)).map (·.1.name),
      ∃ c ∈ m.classes, c.name = name := fun name hname =>
    hclass name ((List.filter_sublist.map _).subset hname)
  refine {
    failed := fun c hc => (hlists hc).1
    generated := fun c hc => (hlists hc).2
    failed_class := hfailed
    legal := fun c hc => isIdentifier_injectorName_iff hvalid hs hc
    distinct := fun c hc e he hdc hde => class_eq_of_generatedName_eq hvalid hc he hdc hde
    none_failed := fun hplain => List.eq_nil_iff_forall_not_mem.mpr fun name hname => ?_ }
  obtain ⟨c, hc, rfl⟩ := hfailed name hname
  obtain ⟨-, hreserved | ⟨e, he, hlt, -, heq⟩⟩ := (hlists hc).1.mp hname
  · rw [(hplain c hc).2] at hreserved
    cases hreserved
  · rw [class_eq_of_generatedName_eq hvalid he hc (hplain e he).1 (hplain c hc).1 heq] at hlt
    exact List.lt_irrefl _ hlt

theorem emission_of_valid_formManifest :
    formManifest.check = .ok () ∧ ({} : Settings).check = .ok () ∧
    ∃ r first, checkManifest formManifest {} = .ok r ∧ r.rounds.head? = some first ∧
      formManifest.Emits {} first ∧ first.failed = [] ∧
      first.generated.map (·.owner) = ["app.Form"] := by
  have hcheck : formManifest.check = .ok () := by decide +kernel
  obtain ⟨r, first, hr, hfirst, hemits⟩ := emission_of_valid hcheck Settings.check_default
  have hreport : r = formManifest.report {} :=
    Except.ok.inj (hr.symm.trans (checkManifest_eq Settings.check_default))
  subst hreport
  cases hfirst
  exact ⟨hcheck, Settings.check_default, _, _, hr, rfl, hemits,
    hemits.none_failed (by decide +kernel), by decide +kernel⟩

/-- A class whose injector would be named by a reserved word where the suffix is `t`, and two
classes whose injectors have one name with any suffix. -/
def clashingManifest : Manifest where
  classes := [
    { name := "in"
      members := [{ kind := .field, name := "title", type := "Label", bindView := some 1 }] },
    { name := "Form.Row"
      members := [{ kind := .field, name := "label", type := "Label", bindView := some 2 }] },
    { name := "Form$Row"
      members := [{ kind := .field, name := "note", type := "Label", bindView := some 3 }] }]

/-- Valid names do not keep classes from failing. -/
theorem failed_clashingManifest :
    let settings : Settings := { classSuffix := "t" }
    clashingManifest.check = .ok () ∧ settings.check = .ok () ∧
    ∃ r first, checkManifest clashingManifest settings = .ok r ∧ r.rounds.head? = some first ∧
      first.failed = ["Form.Row", "in"] ∧ first.skipped = [] ∧
      first.tally = { scanned := 3, accepted := 3, rejected := 0 } ∧
      clashingManifest.classes.map (·.generatedName settings) =
        ["int", "Form$Rowt", "Form$Rowt"] ∧
      ¬ Java.IsIdentifier "int" := by
  have hs : ({ classSuffix := "t" } : Settings).check = .ok () :=
    Problems.result_eq_ok_iff.mpr (by decide +kernel)
  exact ⟨by decide +kernel, hs, _, _, checkManifest_eq hs, rfl, by decide +kernel,
    by decide +kernel, by decide +kernel, by decide +kernel, by decide +kernel⟩

end Manifest

end ViewBinding
