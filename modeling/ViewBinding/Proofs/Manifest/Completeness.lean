import Mathlib.Data.List.Dedup
import ViewBinding.Proofs.Injector.Statements
import ViewBinding.Proofs.Manifest.Order
import ViewBinding.Proofs.Session.Trace

/-!
# Nothing is lost

Where the dry build of a valid manifest reports no error, every annotation of every member has
become a statement in the injector of its class, and every statement comes from an annotation.

* `MemberEntry.statements`: the statements that a member calls for.
* `Manifest.entries_perm`: the tables of an injector hold the members of its class.
* `Manifest.complete_of_no_errors`: the generated sources of a build without errors.
-/

namespace ViewBinding

open Code

/-! ## Members -/

namespace MemberEntry

/-- The member carries an annotation. -/
def isMarked (e : MemberEntry) : Bool :=
  e.bindView.isSome || e.onClick.isSome

/-- The views that a member names for an annotation, each once. -/
def views (e : MemberEntry) : AnnotationKind → List ViewId
  | .bindView => e.bindView.toList
  | .onClick => (e.onClick.getD []).dedup

/-- The statements that a member calls for: its view is put into it, and it listens to each of the
views that it names for clicks. -/
def statements (e : MemberEntry) : List Statement :=
  (e.views .bindView).map (.assign e.name e.type) ++
    (e.views .onClick).map (.listen e.name e.params)

variable {e : MemberEntry} {host : HostClass} {source : Option String}

theorem views_nodup (kind : AnnotationKind) : (e.views kind).Nodup := by
  cases kind with
  | bindView => cases h : e.bindView <;> simp [views, h]
  | onClick => exact List.nodup_dedup _

/-- The annotations of a member are found on its declaration. -/
theorem annotationOf?_declaration (kind : AnnotationKind) :
    (e.declaration host source).annotationOf? kind = match kind with
      | .bindView => e.bindView.map .bindView
      | .onClick => e.onClick.map .onClick := by
  unfold Declaration.annotationOf? declaration annotations
  cases kind <;> cases e.bindView <;> cases e.onClick <;> rfl

theorem mem_views {kind : AnnotationKind} {id : ViewId} :
    id ∈ e.views kind ↔
      ∃ found, (e.declaration host source).annotationOf? kind = some found ∧ id ∈ found.ids := by
  rw [annotationOf?_declaration]
  cases kind with
  | bindView => cases h : e.bindView <;> simp [views, h, Annotation.ids]
  | onClick => cases h : e.onClick <;> simp [views, h, Annotation.ids]

theorem isMarked_iff :
    e.isMarked = true ↔ ∃ kind, ((e.declaration host source).annotationOf? kind).isSome := by
  constructor
  · intro h
    rcases Bool.or_eq_true_iff.mp h with h | h
    · exact ⟨.bindView, by rw [annotationOf?_declaration]; simpa using h⟩
    · exact ⟨.onClick, by rw [annotationOf?_declaration]; simpa using h⟩
  · rintro ⟨kind, h⟩
    rw [annotationOf?_declaration] at h
    cases kind <;> simp_all [isMarked]

end MemberEntry

namespace Manifest

variable {m : Manifest}

/-- Every annotation binds where it stands. -/
def AllAccepted (m : Manifest) : Prop :=
  ∀ r ∈ m.round.sightings, r.isAccepted = true

/-- A marked member of a class is sighted. -/
theorem mem_sightings_of_marked {c : ClassEntry} (hc : c ∈ m.classes) {e : MemberEntry}
    (he : e ∈ c.members) {kind : AnnotationKind}
    (hk : ((e.declaration c.host c.source).annotationOf? kind).isSome) :
    ⟨kind, e.declaration c.host c.source⟩ ∈ m.round.sightings := by
  rw [Round.mem_sightings]
  exact List.mem_filter.mpr ⟨mem_declarations.mpr ⟨c, hc, e, he, rfl⟩, hk⟩

/-- A sighting is one of a marked member. -/
theorem exists_marked_of_mem_sightings {r : Sighting} (h : r ∈ m.round.sightings) :
    ∃ c ∈ m.classes, ∃ e ∈ c.members, r.declaration = e.declaration c.host c.source ∧
      (r.declaration.annotationOf? r.kind).isSome := by
  obtain ⟨hd, hk⟩ := List.mem_filter.mp (Round.mem_sightings.mp h)
  obtain ⟨c, hc, e, he, heq⟩ := mem_declarations.mp hd
  exact ⟨c, hc, e, he, heq, hk⟩

/-- The claims that the members of a class make on views. -/
def memberClaims (c : ClassEntry) (kind : AnnotationKind) : List (ViewId × Declaration) :=
  c.members.flatMap fun e => (e.views kind).map fun id => (id, e.declaration c.host c.source)

theorem mem_memberClaims {c : ClassEntry} {kind : AnnotationKind} {id : ViewId} {d : Declaration} :
    (id, d) ∈ memberClaims c kind ↔
      ∃ e ∈ c.members, id ∈ e.views kind ∧ e.declaration c.host c.source = d := by
  simp [memberClaims]

/-- Where nothing is rejected, a claim of a member is an accepted one. -/
theorem claims_of_mem_views (hacc : m.AllAccepted) {c : ClassEntry} (hc : c ∈ m.classes)
    {e : MemberEntry} (he : e ∈ c.members) {kind : AnnotationKind} {id : ViewId}
    (hid : id ∈ e.views kind) :
    (e.declaration c.host c.source).claims kind c.name id = true := by
  obtain ⟨found, hfound, hmem⟩ := MemberEntry.mem_views.mp hid
  have hsighted := mem_sightings_of_marked hc he (Option.isSome_of_eq_some hfound)
  exact Declaration.claims_iff.mpr ⟨Sighting.isAccepted_iff.mp (hacc _ hsighted),
    ⟨c.host, rfl, c.host_name⟩, found, hfound, hmem⟩

/-- The claimants of a view are the members of the class that name it. -/
theorem mem_claimantsIn_iff (hm : m.Valid) (hacc : m.AllAccepted) {c : ClassEntry}
    (hc : c ∈ m.classes) {kind : AnnotationKind} {id : ViewId} {d : Declaration} :
    d ∈ claimantsIn m.round.sightings kind c.name id ↔ (id, d) ∈ memberClaims c kind := by
  rw [Roster.mem_claimantsIn, mem_memberClaims]
  constructor
  · rintro ⟨hr, hclaims⟩
    obtain ⟨c', hc', e, he, rfl, -⟩ := exists_marked_of_mem_sightings hr
    obtain ⟨-, ⟨host, hhost, hname⟩, hfound⟩ := Declaration.claims_iff.mp hclaims
    cases hhost
    rw [ClassEntry.host_name] at hname
    -- Names of classes are not repeated, so the claimant is a member of this class.
    cases hm.class_eq hc' hc hname
    exact ⟨e, he, MemberEntry.mem_views.mpr hfound, rfl⟩
  · rintro ⟨e, he, hid, rfl⟩
    obtain ⟨found, hfound, -⟩ := MemberEntry.mem_views.mp hid
    exact ⟨mem_sightings_of_marked hc he (Option.isSome_of_eq_some hfound),
      claims_of_mem_views hacc hc he hid⟩

theorem isClassMember_of_mem_views (hacc : m.AllAccepted) {c : ClassEntry} (hc : c ∈ m.classes)
    {e : MemberEntry} (he : e ∈ c.members) {kind : AnnotationKind} {id : ViewId}
    (hid : id ∈ e.views kind) : e.isClassMember = true := by
  have hclaims := claims_of_mem_views hacc hc he hid
  obtain ⟨⟨place, hplace⟩, -⟩ := Declaration.claims_iff.mp hclaims
  exact MemberEntry.isClassMember_of_target (Declaration.place_target hplace)

/-- No two members make the same claim. -/
theorem memberClaims_nodup (hm : m.Valid) (hacc : m.AllAccepted) {c : ClassEntry}
    (hc : c ∈ m.classes) (kind : AnnotationKind) : (memberClaims c kind).Nodup := by
  have hsymbols := List.pairwise_filter.mp (List.pairwise_map.mp (hm.classes c hc).symbols)
  -- One member names a view once, and two members differ in their symbols.
  refine List.nodup_flatMap.mpr ⟨fun e _ => ?_, hsymbols.imp_of_mem fun {e f} he hf hne => ?_⟩
  · exact (MemberEntry.views_nodup kind).map fun _ _ h => (Prod.mk.inj h).1
  · intro claim hce hcf
    obtain ⟨id, hid, rfl⟩ := List.mem_map.mp hce
    obtain ⟨id', hid', heq⟩ := List.mem_map.mp hcf
    have hd : f.declaration c.host c.source = e.declaration c.host c.source :=
      (Prod.mk.inj heq).2
    have hkey : ClassEntry.symbolOf c.host f = ClassEntry.symbolOf c.host e := by
      show (f.declaration c.host c.source).symbolKey = (e.declaration c.host c.source).symbolKey
      rw [hd]
    exact hne (isClassMember_of_mem_views hacc hc he hid)
      (isClassMember_of_mem_views hacc hc hf hid') hkey.symm

/-! ## Injectors -/

section

variable {c : ClassEntry} {i : Injector}

/-- Without rejections and conflicts, a table holds the claims of the members of its class. -/
theorem entries_perm (hm : m.Valid) (hacc : m.AllAccepted) (hc : c ∈ m.classes)
    (hi : m.roster.get? c.name = some i) (hnil : i.conflicts = []) (kind : AnnotationKind) :
    (i.table kind.table).bound.entries.Perm (memberClaims c kind) := by
  have hrec := m.reflects_roster.records c.name i hi
  refine (List.perm_ext_iff_of_nodup (SortedMap.entries_nodup _)
    (memberClaims_nodup hm hacc hc kind)).mpr ?_
  rintro ⟨id, d⟩
  rw [SortedMap.mem_entries_iff, ← mem_claimantsIn_iff hm hacc hc]
  show (i.table kind.table).get? id = some d ↔ _
  rw [(hrec kind).bound]
  refine ⟨List.mem_of_mem_head?, fun hd => ?_⟩
  cases hfirst : (claimantsIn m.round.sightings kind c.name id).head? with
  | none =>
    rw [List.head?_eq_none_iff.mp hfirst] at hd
    cases hd
  | some first =>
    -- The first claimant has the symbol of the other, so both are one member.
    have hmem := List.mem_of_mem_head? hfirst
    obtain ⟨hr, hclaims⟩ := Roster.mem_claimantsIn.mp hd
    obtain ⟨hr', hclaims'⟩ := Roster.mem_claimantsIn.mp hmem
    have hsame : first = d := (identified_sightings hm).eq_of_claims (List.mem_map_of_mem hr')
      (List.mem_map_of_mem hr) hclaims' hclaims (hrec.symbolKey_eq hnil hmem hd)
    rw [hsame]

/-- Without rejections and conflicts, the statements of an injector are those that the members of
its class call for. -/
theorem statements_perm_members (hm : m.Valid) (hacc : m.AllAccepted) (hc : c ∈ m.classes)
    (hi : m.roster.get? c.name = some i) (hnil : i.conflicts = []) :
    i.statements.Perm (c.members.flatMap (·.statements)) := by
  have hof (kind : AnnotationKind) : (i.statementsOf kind).Perm (c.members.flatMap fun e =>
      (e.views kind).map fun id => .ofClaim kind (e.declaration c.host c.source) id) := by
    have hmap := (entries_perm hm hacc hc hi hnil kind).map fun claim : ViewId × Declaration =>
      Statement.ofClaim kind claim.2 claim.1
    rw [memberClaims, List.map_flatMap] at hmap
    simp only [List.map_map] at hmap
    exact hmap
  -- The two tables come one after the other, the members with both of their annotations at once.
  exact i.statements_perm.trans (((hof .bindView).append (hof .onClick)).trans
    (List.flatMap_append_perm _ _ _))

/-- The injector of a class has that class as its host. -/
theorem host_eq (hm : m.Valid) (hc : c ∈ m.classes) (hi : m.roster.get? c.name = some i) :
    i.host = c.host := by
  obtain ⟨hname, r, hr, -, howner⟩ := m.reflects_roster.host c.name i hi
  obtain ⟨c', hc', e, -, heq, -⟩ := exists_marked_of_mem_sightings hr
  rw [heq] at howner
  have hhost : c'.host = i.host := Option.some.inj howner
  rw [← hhost, ClassEntry.host_name] at hname
  rw [← hhost, hm.class_eq hc' hc hname]

end

/-- Without rejections, there is an injector for each class with a marked member. -/
theorem keys_perm (hm : m.Valid) (hacc : m.AllAccepted) :
    m.roster.keys.Perm
      ((m.classes.filter fun c => c.members.any (·.isMarked)).map (·.name)) := by
  refine (List.perm_ext_iff_of_nodup (SortedMap.keys_nodup _)
    (hm.names.sublist (List.filter_sublist.map _))).mpr fun owner => ?_
  rw [SortedMap.mem_keys_iff_isSome, m.reflects_roster.present, List.mem_map]
  constructor
  · rintro ⟨r, hr, -, host, hhost, hname⟩
    obtain ⟨c, hc, e, he, heq, hmark⟩ := exists_marked_of_mem_sightings hr
    rw [heq] at hhost hmark
    cases hhost
    refine ⟨c, List.mem_filter.mpr ⟨hc, List.any_eq_true.mpr ⟨e, he, ?_⟩⟩, ?_⟩
    · exact MemberEntry.isMarked_iff.mpr ⟨_, hmark⟩
    · rw [← hname, ClassEntry.host_name]
  · rintro ⟨c, hc, rfl⟩
    obtain ⟨hc, hany⟩ := List.mem_filter.mp hc
    obtain ⟨e, he, hmarked⟩ := List.any_eq_true.mp hany
    obtain ⟨kind, hkind⟩ := MemberEntry.isMarked_iff.mp hmarked
    have hr := mem_sightings_of_marked hc he hkind
    exact ⟨_, hr, hacc _ hr, c.host, rfl, c.host_name⟩

/-! ## The build -/

/-- Where every verdict is a generated source, there is one source for each injector, in order. -/
theorem forall₂_generated {s : Session} {is : List Injector}
    {verdicts : List (HostClass × Verdict)} (hv : List.Forall₂ (Settled s) is verdicts)
    (hall : ∀ v ∈ verdicts, v.2.generated?.isSome = true) :
    List.Forall₂ (fun i g => i.conflicts = [] ∧ i.generate s.settings s.version = .ok g) is
      (verdicts.filterMap (·.2.generated?)) := by
  induction hv with
  | nil => exact .nil
  | @cons i v _ rest hhead _ ih =>
    obtain ⟨hsome, hrest⟩ := List.forall_mem_cons.mp hall
    obtain ⟨-, hfits⟩ := hhead
    cases hverdict : v.2 with
    | generated source =>
      rw [hverdict] at hfits
      rw [List.filterMap_cons, hverdict]
      exact .cons hfits (ih hrest)
    | skipped conflicts => rw [hverdict] at hsome; cases hsome
    | failed e => rw [hverdict] at hsome; cases hsome

/-- Without an error in the first round, every annotation binds and every class is generated. -/
theorem allAccepted_of_no_errors {settings : Settings}
    (hno : ∀ x ∈ (m.report settings).log, x.level ≠ .error) :
    m.AllAccepted ∧ ∀ v ∈ m.verdicts settings, v.2.generated?.isSome = true := by
  -- The note on the closing round is no error, so the first round decides.
  have hadded : ∀ x ∈ Session.roundNote 1 m.round.final ::
      (m.round.rejections ++ (m.verdicts settings).flatMap fun v => v.2.diagnostics v.1),
      x.level ≠ .error := fun x hx => hno x (List.mem_append_left _ hx)
  obtain ⟨hrej, hall⟩ := (Session.no_errors_iff (m.settled_verdicts settings)).mp hadded
  refine ⟨fun r hr => ?_, hall⟩
  have hzero := List.countP_eq_zero.mp (Round.rejections_eq_nil_iff.mp hrej) r hr
  simpa using hzero

section

variable {settings : Settings} (hall : ∀ v ∈ m.verdicts settings, v.2.generated?.isSome = true)

include hall

/-- Where every class is generated, the sources belong to the classes of the injectors. -/
theorem generated_owners_eq_keys :
    ((m.verdicts settings).filterMap (·.2.generated?)).map (·.owner) = m.roster.keys := by
  have hv := m.settled_verdicts settings
  rw [Outcome.generated_owners hv, List.filter_eq_self.mpr hall, Outcome.names_eq hv,
    m.reflects_roster.names_eq]

/-- A source is the frame of an injector around the statements that the members of the class call
for. -/
theorem contents_of_generated (hm : m.Valid) (hacc : m.AllAccepted) {c : ClassEntry}
    (hc : c ∈ m.classes) {g : Generated}
    (hg : g ∈ (m.verdicts settings).filterMap (·.2.generated?)) (howner : g.owner = c.name) :
    ∃ statements : List Statement, statements.Perm (c.members.flatMap (·.statements)) ∧
      g.bindings = statements.length ∧
      g.contents = Line.printAll (Injector.indentUnit settings)
        (injectorLines settings m.version c.host statements) := by
  have hgenerated := forall₂_generated (m.settled_verdicts settings) hall
  obtain ⟨i, hi, hnil, hgen⟩ := exists_mem_of_forall₂ hgenerated hg
  obtain ⟨hname, hbindings, hcontents⟩ := Injector.generate_eq_ok hgen
  obtain ⟨owner, hget⟩ := SortedMap.mem_values_iff.mp hi
  have hkey : owner = c.name := by
    rw [← howner, hname]
    exact (m.reflects_roster.host owner i hget).1.symm
  subst hkey
  refine ⟨i.statements, statements_perm_members hm hacc hc hget hnil, hbindings, ?_⟩
  rw [hcontents, host_eq hm hc hget]
  rfl

end

/-- A dry build of a valid manifest comes to a report, and if that holds no error then nothing is
lost: there is one source for each class with a marked member and no other, and the source of a
class is the frame of an injector around the statements that its members call for. -/
theorem complete_of_no_errors {settings : Settings} (hm : m.check = .ok ())
    (hs : settings.check = .ok ()) :
    ∃ r : Report, checkManifest m settings = .ok r ∧ ((∀ x ∈ r.log, x.level ≠ .error) →
      ∃ first, r.rounds.head? = some first ∧
      (first.generated.map (·.owner)).Perm
        ((m.classes.filter fun c => c.members.any (·.isMarked)).map (·.name)) ∧
      ∀ c ∈ m.classes, ∀ g ∈ first.generated, g.owner = c.name →
        ∃ statements : List Statement, statements.Perm (c.members.flatMap (·.statements)) ∧
          g.bindings = statements.length ∧
          g.contents = Line.printAll (Injector.indentUnit settings)
            (injectorLines settings m.version c.host statements)) := by
  have hvalid := check_eq_ok_iff.mp hm
  refine ⟨m.report settings, checkManifest_eq hs, fun hno => ?_⟩
  obtain ⟨hacc, hall⟩ := allAccepted_of_no_errors hno
  refine ⟨_, rfl, ?_, fun c hc g hg howner => contents_of_generated hall hvalid hacc hc hg howner⟩
  have howners := generated_owners_eq_keys hall
  show (((m.verdicts settings).filterMap (·.2.generated?)).map (·.owner)).Perm _
  rw [howners]
  exact keys_perm hvalid hacc

/-- A class with a bound field and two overloaded listeners, one of which names a view twice, and a
class without annotations. -/
def formManifest : Manifest where
  sourceVersion := some 7
  classes := [
    { name := "app.Plain", members := [{ kind := .field, name := "size", type := "int" }] },
    { name := "app.Form"
      members := [
        { kind := .method, name := "save", type := "void", onClick := some [3, 2, 3] },
        { kind := .constructor, name := "Form" },
        { kind := .field, name := "title", type := "Label", bindView := some 2 },
        { kind := .method, name := "save", type := "void", params := ["app.Button"]
          onClick := some [1] }] }]

theorem complete_of_no_errors_formManifest :
    formManifest.check = .ok () ∧ ({} : Settings).check = .ok () ∧
    ∃ r : Report, checkManifest formManifest {} = .ok r ∧ (∀ x ∈ r.log, x.level ≠ .error) ∧
      ∃ first, r.rounds.head? = some first ∧
      (first.generated.map (·.owner)).Perm ["app.Form"] ∧
      ∀ g ∈ first.generated, g.owner = "app.Form" → ∃ statements : List Statement,
        statements.Perm [.listen "save" [] 2, .listen "save" [] 3, .assign "title" "Label" 2,
          .listen "save" ["app.Button"] 1] ∧ g.bindings = statements.length := by
  have hcheck : formManifest.check = .ok () := by decide +kernel
  obtain ⟨r, hr, hcomplete⟩ := complete_of_no_errors hcheck Settings.check_default
  have hreport : r = formManifest.report {} :=
    Except.ok.inj (hr.symm.trans (checkManifest_eq Settings.check_default))
  have hno : ∀ x ∈ r.log, x.level ≠ .error := by
    rw [hreport]
    decide +kernel
  obtain ⟨first, hfirst, hperm, hclasses⟩ := hcomplete hno
  refine ⟨hcheck, Settings.check_default, r, hr, hno, first, hfirst, hperm, fun g hg howner => ?_⟩
  obtain ⟨statements, hstatements, hbindings, -⟩ :=
    hclasses _ (List.mem_cons_of_mem _ List.mem_cons_self) g hg howner
  have hlist : (formManifest.classes[1]).members.flatMap (·.statements) =
      [.listen "save" [] 2, .listen "save" [] 3, .assign "title" "Label" 2,
        .listen "save" ["app.Button"] 1] := by decide +kernel
  exact ⟨statements, hlist ▸ hstatements, hbindings⟩

end Manifest

end ViewBinding
