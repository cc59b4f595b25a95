import ViewBinding.Proofs.Gathering.Hosts
import ViewBinding.Proofs.Gathering.Order
import ViewBinding.Proofs.Injector.Statements
import ViewBinding.Proofs.SymbolKey

/-!
# Sources and the order of discovery

A source prints less of a declaration than there is, and a symbol tells less of it than is printed:
the type of a field and the package of a class are not in it. Of a class whose views are not
disputed, whatever comes first is printed, so the declarations have to agree on these two. This is
asked for each class alone: what a round reports of other classes does not matter.

* `Contested`, `PackagesAgree`, `TypesAgree`: the conditions on the declarations of one class.
* `TypesAgree.ofClaim_eq`: claimants of a view with one symbol call for one statement.
* `Roster.source?_of_perm`: the source of a class, or the reason why there is none, is the same in
  any order of the declarations of a round.
-/

namespace ViewBinding

/-! ## What a source depends on -/

theorem HostClass.injectorName_congr {host host' : HostClass} (hname : host.name = host'.name)
    (hpackage : host.package = host'.package) (suffix : String) :
    host.injectorName suffix = host'.injectorName suffix := by
  simp only [injectorName, binaryName, simpleName, hname, hpackage]

namespace Injector

variable {i i' : Injector} {claims claims' : AnnotationKind → ViewId → List Declaration}

/-- The statement for a view in one table. -/
def statementOf? (i : Injector) (kind : AnnotationKind) (id : ViewId) : Option Statement :=
  ((i.table kind.table).get? id).map fun d => .ofClaim kind d id

/-- The statements are determined by those for each view. -/
theorem statements_congr (h : ∀ kind id, i.statementOf? kind id = i'.statementOf? kind id) :
    i.statements = i'.statements := by
  have hkeys (kind : AnnotationKind) :
      (i.table kind.table).bound.keys = (i'.table kind.table).bound.keys := by
    refine SortedMap.keys_congr fun id => ?_
    have hsome := congrArg Option.isSome (h kind id)
    rw [statementOf?, statementOf?, Option.isSome_map, Option.isSome_map] at hsome
    rw [SortedMap.mem_keys_iff_isSome, SortedMap.mem_keys_iff_isSome]
    exact Bool.eq_iff_iff.mp hsome
  have hfields : i.fields.bound.keys = i'.fields.bound.keys := hkeys .bindView
  have hhandlers : i.handlers.bound.keys = i'.handlers.bound.keys := hkeys .onClick
  have hids : i.ids = i'.ids := by rw [ids, ids, hfields, hhandlers]
  unfold statements
  rw [hids]
  refine List.flatMap_congr fun id _ => ?_
  have hfield : (i.field? id).map (fun d => Statement.assign d.name d.type id) =
      (i'.field? id).map fun d => Statement.assign d.name d.type id := h .bindView id
  have hhandler : (i.handler? id).map (fun d => Statement.listen d.name d.params id) =
      (i'.handler? id).map fun d => Statement.listen d.name d.params id := h .onClick id
  rw [hfield, hhandler]

/-- A source depends on the name of the class and the conflicts, on the package if there are no
conflicts, and on the statements if there is a source at all. -/
theorem source?_congr {settings : Settings} {version : SourceVersion}
    (hname : i.host.name = i'.host.name) (hconflicts : i.conflicts = i'.conflicts)
    (hpackage : i.conflicts = [] → i.host.package = i'.host.package)
    (hstatements : ∀ text, i.source? settings version = .ok text → i.statements = i'.statements) :
    i.source? settings version = i'.source? settings version := by
  have hhas := hasConflicts_congr hconflicts
  unfold source? at hstatements ⊢
  simp only [render_classSteps, ← hhas, ← hconflicts, hname] at hstatements ⊢
  cases hc : i.hasConflicts with
  | true => rfl
  | false =>
    have hhost := hpackage (hasConflicts_eq_false_iff.mp hc)
    have hinjector := HostClass.injectorName_congr hname hhost settings.classSuffix
    simp only [hc, Bool.false_eq_true, if_false, ← hinjector] at hstatements ⊢
    cases hn : Java.checkIdentifier (i.host.injectorName settings.classSuffix) with
    | error fault => rfl
    | ok =>
      rw [hn] at hstatements
      have hlines : injectorLines settings version i.host i.statements =
          injectorLines settings version i'.host i'.statements := by
        simp only [injectorLines, hname, hhost, hinjector, hstatements _ rfl]
      rw [hlines]

/-- Claims in different orders come to one source where the package is the same, unless there are
conflicts, and claimants of a view with one symbol call for one statement, if there is a source. -/
theorem Records.source?_eq {settings : Settings} {version : SourceVersion} (h : i.Records claims)
    (h' : i'.Records claims') (hname : i.host.name = i'.host.name)
    (hperm : ∀ kind id, (claims kind id).Perm (claims' kind id))
    (hpackage : i.conflicts = [] → i.host.package = i'.host.package)
    (hsame : ∀ text, i.source? settings version = .ok text → ∀ kind id, ∀ d ∈ claims kind id,
      ∀ e ∈ claims kind id, d.symbolKey = e.symbolKey →
        Statement.ofClaim kind d id = Statement.ofClaim kind e id) :
    i.source? settings version = i'.source? settings version := by
  refine source?_congr hname (h.conflicts_eq h' hname hperm) hpackage fun text htext => ?_
  have hnil : i.conflicts = [] := (source?_eq_ok.mp htext).1
  refine statements_congr fun kind id => ?_
  unfold statementOf?
  rw [(h kind).bound, (h' kind).bound]
  exact map_head?_of_perm (hperm kind id) fun d hd e he =>
    hsame text htext kind id d hd e he (h.symbolKey_eq hnil hd he)

end Injector

/-! ## What the declarations of a class have to agree on -/

section

variable {ds : List Declaration} {owner : String}

/-- A view of the class is claimed under two symbols. -/
def Contested (ds : List Declaration) (owner : String) : Prop :=
  ∃ kind id, ∃ d ∈ ds, ∃ e ∈ ds, d.claims kind owner id = true ∧ e.claims kind owner id = true ∧
    d.symbolKey ≠ e.symbolKey

/-- The declarations of the class that can come first put it into one package. -/
def PackagesAgree (ds : List Declaration) (owner : String) : Prop :=
  ∀ host ∈ leadingHosts ds owner, ∀ host' ∈ leadingHosts ds owner, host.package = host'.package

/-- The fields of the class that claim one view have one type. -/
def TypesAgree (ds : List Declaration) (owner : String) : Prop :=
  ∀ id, ∀ d ∈ ds, ∀ e ∈ ds, d.claims .bindView owner id = true →
    e.claims .bindView owner id = true → d.type = e.type

/-- The class named in a symbol is the one whose view is claimed. -/
theorem Declaration.ownerName_of_claims {d : Declaration} {kind : AnnotationKind} {id : ViewId}
    (h : d.claims kind owner id = true) : d.ownerName = owner := by
  obtain ⟨-, ⟨host, hhost, hname⟩, -⟩ := claims_iff.mp h
  rw [ownerName, hhost]
  exact hname

/-- Claimants of a view with one symbol call for one statement. -/
theorem TypesAgree.ofClaim_eq (h : TypesAgree ds owner) {kind : AnnotationKind} {id : ViewId}
    {d e : Declaration} (hd : d ∈ ds) (he : e ∈ ds) (hdc : d.claims kind owner id = true)
    (hec : e.claims kind owner id = true) (hkey : d.symbolKey = e.symbolKey) :
    Statement.ofClaim kind d id = Statement.ofClaim kind e id := by
  obtain ⟨⟨place, hplace⟩, -⟩ := Declaration.claims_iff.mp hdc
  obtain ⟨⟨place', hplace'⟩, -⟩ := Declaration.claims_iff.mp hec
  have howner : d.ownerName = e.ownerName := by
    rw [Declaration.ownerName_of_claims hdc, Declaration.ownerName_of_claims hec]
  cases kind with
  | bindView =>
    have hname := Declaration.name_eq_of_symbolKey_eq (by rw [Declaration.place_target hplace]; rfl)
      (by rw [Declaration.place_target hplace']; rfl) howner hkey
    simp only [Statement.ofClaim, hname, h id d hd e he hdc hec]
  | onClick =>
    -- The parameters are in the symbol of a method, and nothing else of it is printed.
    obtain ⟨hname, hparams⟩ :=
      Declaration.signature_eq_of_symbolKey_eq hplace hplace' howner hkey
    simp only [Statement.ofClaim, hname, hparams]

end

/-! ## Rounds -/

/-- The source of a class after a round, or the reason why it has none; nothing for a class without
an injector. -/
def Round.source? (round : Round) (owner : String) (settings : Settings)
    (version : SourceVersion) : Option (Except SourceError String) :=
  ((round.gatherInto .empty).roster.get? owner).map (·.source? settings version)

/-- The sightings of a round are the same, but for their order, as its declarations are. -/
theorem Round.sightings_perm {ds es : List Declaration} (h : ds.Perm es) :
    (Round.ofDeclarations ds).sightings.Perm (Round.ofDeclarations es).sightings := by
  rw [sightings_eq, sightings_eq]
  exact ((h.filter _).map _).append ((h.filter _).map _)

/-- A declaration that claims a view is reported for the annotation. -/
theorem Round.mem_sightings_of_claims {ds : List Declaration} {d : Declaration} (hd : d ∈ ds)
    {kind : AnnotationKind} {owner : String} {id : ViewId} (h : d.claims kind owner id = true) :
    ⟨kind, d⟩ ∈ (Round.ofDeclarations ds).sightings := by
  obtain ⟨-, -, found, hfound, -⟩ := Declaration.claims_iff.mp h
  exact mem_sightings.mpr (List.mem_filter.mpr ⟨hd, by rw [hfound]; rfl⟩)

namespace Roster

theorem mem_of_mem_sightings {ds : List Declaration} {r : Sighting}
    (h : r ∈ (Round.ofDeclarations ds).sightings) : r.declaration ∈ ds :=
  (List.mem_filter.mp (Round.mem_sightings.mp h)).1

/-- An injector without conflicts belongs to a class that is not contested. -/
theorem Reflects.not_contested {roster : Roster} {ds : List Declaration} {owner : String}
    {i : Injector} (h : roster.Reflects (Round.ofDeclarations ds).sightings)
    (hg : roster.get? owner = some i) (hnil : i.conflicts = []) : ¬ Contested ds owner := by
  rintro ⟨kind, id, d, hd, e, he, hdc, hec, hne⟩
  exact hne ((h.records owner i hg).symbolKey_eq hnil
    (mem_claimantsIn.mpr ⟨Round.mem_sightings_of_claims hd hdc, hdc⟩)
    (mem_claimantsIn.mpr ⟨Round.mem_sightings_of_claims he hec, hec⟩))

/-- A round comes to one source for a class, or to one reason why there is none, whatever the order
of its declarations: those of the class that can come first agree on the package, unless its views
are contested, and its fields agree on the types that are printed, if there is a source. -/
theorem source?_of_perm {ds es : List Declaration} (h : ds.Perm es) (owner : String)
    (settings : Settings) (version : SourceVersion)
    (hpackage : ¬ Contested ds owner → PackagesAgree ds owner)
    (htype : ∀ text, (Round.ofDeclarations ds).source? owner settings version = some (.ok text) →
      TypesAgree ds owner) :
    (Round.ofDeclarations ds).source? owner settings version =
      (Round.ofDeclarations es).source? owner settings version := by
  unfold Round.source? at htype ⊢
  have hreflects := reflects_empty.gatherInto (Round.ofDeclarations ds)
  have hreflects' := reflects_empty.gatherInto (Round.ofDeclarations es)
  have hperm := Round.sightings_perm h
  have hlead {i : Injector} := @Round.host_mem_leadingHosts ds owner i
  have hlead' {i : Injector} := @Round.host_mem_leadingHosts es owner i
  rw [List.nil_append] at hreflects hreflects'
  generalize ((Round.ofDeclarations ds).gatherInto .empty).roster = roster
    at hreflects hlead htype ⊢
  generalize ((Round.ofDeclarations es).gatherInto .empty).roster = roster' at hreflects' hlead' ⊢
  -- Both rosters tell the claimants of every view of the class, and these are the same up to order.
  have hrel : Option.Rel (fun i i' => i.source? settings version = i'.source? settings version)
      (roster.get? owner) (roster'.get? owner) := by
    refine hreflects.rel_get? hreflects' hperm owner fun i i' hg hg' => ?_
    have hname : i.host.name = i'.host.name :=
      (hreflects.host owner i hg).1.trans (hreflects'.host owner i' hg').1.symm
    refine (hreflects.records owner i hg).source?_eq (hreflects'.records owner i' hg') hname
      (fun kind id => (hperm.filter _).map _) (fun hnil => ?_)
      fun text htext kind id d hd e he hkey => ?_
    · exact hpackage (hreflects.not_contested hg hnil) _ (hlead hg) _
        ((leadingHosts_perm h).mem_iff.mpr (hlead' hg'))
    · obtain ⟨hd, hdc⟩ := mem_claimantsIn.mp hd
      obtain ⟨he, hec⟩ := mem_claimantsIn.mp he
      have hagree := htype text (by rw [hg, Option.map_some, htext])
      exact hagree.ofClaim_eq (mem_of_mem_sightings hd) (mem_of_mem_sightings he) hdc hec hkey
  generalize roster.get? owner = found at hrel ⊢
  generalize roster'.get? owner = found' at hrel ⊢
  cases hrel with
  | none => rfl
  | some heq => exact congrArg some heq

/-- A class whose fields agree though a handler knows it in another package, a class that is
contested by fields of different types in different packages, and a class with nothing to agree
on. -/
def mixedDeclarations : List Declaration := [
  { kind := .method, name := "tap", type := "void", owner := some ⟨"app.Main", "", none⟩
    annotations := [.onClick [1, 2]] },
  { kind := .field, name := "title", type := "Label", owner := some (.ofName "app.Main")
    annotations := [.bindView 1] },
  { kind := .field, name := "left", type := "Label", owner := some (.ofName "app.Pair")
    annotations := [.bindView 7] },
  { kind := .field, name := "right", type := "Button", owner := some ⟨"app.Pair", "", none⟩
    annotations := [.bindView 7] },
  { kind := .field, name := "icon", type := "Image", owner := some (.ofName "app.Loose")
    annotations := [.bindView 1] },
  { kind := .field, name := "icon", type := "Label", owner := some ⟨"app.Loose", "", none⟩
    annotations := [.bindView 1] },
  { kind := .field, name := "title", type := "Label", owner := some (.ofName "app.Main")
    annotations := [.bindView 1], location := some { line := some 3 } },
  { kind := .field, name := "body", type := "Button", owner := some (.ofName "app.Main")
    annotations := [.bindView 4] }]

theorem source?_of_perm_mixedDeclarations :
    let ds := mixedDeclarations
    let round : Round := .ofDeclarations ds
    let back : Round := .ofDeclarations ds.reverse
    ds.Perm ds.reverse ∧
    ¬ Contested ds "app.Main" ∧ PackagesAgree ds "app.Main" ∧ TypesAgree ds "app.Main" ∧
    round.source? "app.Main" {} {} = back.source? "app.Main" {} {} ∧
    (round.source? "app.Main" {} {}).any Except.isOk ∧
    Contested ds "app.Pair" ∧ ¬ PackagesAgree ds "app.Pair" ∧ ¬ TypesAgree ds "app.Pair" ∧
    round.source? "app.Pair" {} {} = back.source? "app.Pair" {} {} ∧
    round.source? "app.Pair" {} {} = some (.error (.conflicted "app.Pair" 1)) ∧
    round.source? "app.Loose" {} {} ≠ back.source? "app.Loose" {} {} := by
  have hperm := mixedDeclarations.reverse_perm.symm
  have hpackages : PackagesAgree mixedDeclarations "app.Main" := by
    unfold PackagesAgree
    decide +kernel
  have hmarks : ∀ d ∈ mixedDeclarations, ∀ e ∈ mixedDeclarations, d.ownerName = "app.Main" →
      e.ownerName = "app.Main" → ∀ a ∈ d.annotations, ∀ b ∈ e.annotations, a.kind = b.kind →
        a.ids.any (· ∈ b.ids) = true → d.symbolKey = e.symbolKey ∧ d.type = e.type := by
    decide +kernel
  have hone {kind : AnnotationKind} {id : ViewId} {d e : Declaration} (hd : d ∈ mixedDeclarations)
      (he : e ∈ mixedDeclarations) (hdc : d.claims kind "app.Main" id = true)
      (hec : e.claims kind "app.Main" id = true) : d.symbolKey = e.symbolKey ∧ d.type = e.type := by
    obtain ⟨-, -, a, ha, hida⟩ := Declaration.claims_iff.mp hdc
    obtain ⟨-, -, b, hb, hidb⟩ := Declaration.claims_iff.mp hec
    obtain ⟨hka, ha⟩ := Declaration.annotationOf?_eq_some ha
    obtain ⟨hkb, hb⟩ := Declaration.annotationOf?_eq_some hb
    have hshared : a.ids.any (· ∈ b.ids) = true :=
      List.any_eq_true.mpr ⟨id, hida, decide_eq_true hidb⟩
    exact hmarks d hd e he (Declaration.ownerName_of_claims hdc)
      (Declaration.ownerName_of_claims hec) a ha b hb (hka.trans hkb.symm) hshared
  have hfree : ¬ Contested mixedDeclarations "app.Main" := by
    rintro ⟨kind, id, d, hd, e, he, hdc, hec, hne⟩
    exact hne (hone hd he hdc hec).1
  have htypes : TypesAgree mixedDeclarations "app.Main" := fun id d hd e he hdc hec =>
    (hone hd he hdc hec).2
  have hleft : mixedDeclarations[2] ∈ mixedDeclarations := List.getElem_mem _
  have hright : mixedDeclarations[3] ∈ mixedDeclarations := List.getElem_mem _
  have hcontested : Contested mixedDeclarations "app.Pair" :=
    ⟨.bindView, 7, _, hleft, _, hright, by decide +kernel, by decide +kernel, by decide +kernel⟩
  have herror : (Round.ofDeclarations mixedDeclarations).source? "app.Pair" {} {} =
      some (.error (.conflicted "app.Pair" 1)) := by decide +kernel
  refine ⟨hperm, hfree, hpackages, htypes,
    source?_of_perm hperm "app.Main" {} {} (fun _ => hpackages) fun _ _ => htypes,
    by decide +kernel, hcontested, ?_, fun h => ?_,
    source?_of_perm hperm "app.Pair" {} {} (fun h => absurd hcontested h) fun text htext => ?_,
    herror, by decide +kernel⟩
  · unfold PackagesAgree
    decide +kernel
  · have := h 7 _ hleft _ hright (by decide +kernel) (by decide +kernel)
    exact absurd this (by decide +kernel)
  · rw [herror] at htext
    cases htext

/-- A field of one class with two types, and a class in two packages. -/
def incoherentDeclarations : List Declaration := [
  { kind := .field, name := "title", type := "Label", owner := some (.ofName "app.Main")
    annotations := [.bindView 1] },
  { kind := .field, name := "title", type := "Button", owner := some (.ofName "app.Main")
    annotations := [.bindView 1] },
  { kind := .field, name := "left", type := "Label", owner := some ⟨"app.Pair", "app", none⟩
    annotations := [.bindView 1] },
  { kind := .field, name := "right", type := "Label", owner := some ⟨"app.Pair", "", none⟩
    annotations := [.bindView 2] }]

/-- The order of declarations that do not agree can change a source, by the type of a field or by
the package of a class. -/
theorem source?_incoherentDeclarations :
    let ds := incoherentDeclarations
    let round : Round := .ofDeclarations ds
    let back : Round := .ofDeclarations ds.reverse
    ds.Perm ds.reverse ∧ (∀ d ∈ ds, (d.placeAs .bindView).isOk = true) ∧
    round.source? "app.Main" {} {} ≠ back.source? "app.Main" {} {} ∧
    round.source? "app.Pair" {} {} ≠ back.source? "app.Pair" {} {} :=
  ⟨incoherentDeclarations.reverse_perm.symm, by decide +kernel, by decide +kernel,
    by decide +kernel⟩

end Roster

end ViewBinding
