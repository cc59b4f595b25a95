import ViewBinding.Proofs.Gathering.Summary
import ViewBinding.Proofs.Injector.Reading
import ViewBinding.Proofs.Manifest.Structure
import ViewBinding.Proofs.SymbolKey

/-!
# The text of an injector determines its bindings

The source of an injector gives back its class, its package and its statements, and these give back
what is bound in either table. So no two sets of bindings that come from valid manifests are written
alike, whatever rounds they were gathered from.

* `Injector.field?_eq_of_statements_eq`, `Injector.handler?_eq_of_statements_eq`: the tables, from
  the statements.
* `bindings_eq_of_source_eq`: the class and the tables, from the source.
-/

namespace ViewBinding

/-! ## The tables -/

namespace Injector

variable {i i' : Injector}

theorem mem_statementsOf {kind : AnnotationKind} {x : Statement} :
    x ∈ i.statementsOf kind ↔
      ∃ id d, (i.table kind.table).get? id = some d ∧ Statement.ofClaim kind d id = x := by
  simp only [statementsOf, List.mem_map, Prod.exists, SortedMap.mem_entries_iff]
  rfl

theorem mem_statements {x : Statement} :
    x ∈ i.statements ↔ ∃ kind, x ∈ i.statementsOf kind := by
  rw [i.statements_perm.mem_iff, List.mem_append]
  constructor
  · rintro (h | h)
    · exact ⟨_, h⟩
    · exact ⟨_, h⟩
  · rintro ⟨kind, h⟩
    cases kind with
    | bindView => exact .inl h
    | onClick => exact .inr h

theorem assign_mem_statements {name type : String} {id : ViewId} :
    .assign name type id ∈ i.statements ↔
      (i.field? id).map (fun d => (d.name, d.type)) = some (name, type) := by
  rw [mem_statements, Option.map_eq_some_iff]
  constructor
  · rintro ⟨kind, h⟩
    obtain ⟨id', d, hd, hx⟩ := mem_statementsOf.mp h
    cases kind with
    | bindView => cases hx; exact ⟨d, hd, rfl⟩
    | onClick => cases hx
  · rintro ⟨d, hd, hx⟩
    cases hx
    exact ⟨.bindView, mem_statementsOf.mpr ⟨id, d, hd, rfl⟩⟩

theorem listen_mem_statements {name : String} {params : List String} {id : ViewId} :
    .listen name params id ∈ i.statements ↔
      (i.handler? id).map (fun d => (d.name, d.params)) = some (name, params) := by
  rw [mem_statements, Option.map_eq_some_iff]
  constructor
  · rintro ⟨kind, h⟩
    obtain ⟨id', d, hd, hx⟩ := mem_statementsOf.mp h
    cases kind with
    | bindView => cases hx
    | onClick => cases hx; exact ⟨d, hd, rfl⟩
  · rintro ⟨d, hd, hx⟩
    cases hx
    exact ⟨.onClick, mem_statementsOf.mpr ⟨id, d, hd, rfl⟩⟩

/-- The name and the type of the field of a view are known from the statements. -/
theorem field?_eq_of_statements_eq (h : i.statements = i'.statements) (id : ViewId) :
    (i.field? id).map (fun d => (d.name, d.type)) =
      (i'.field? id).map fun d => (d.name, d.type) := by
  refine Option.ext fun ⟨name, type⟩ => ?_
  rw [← assign_mem_statements, ← assign_mem_statements, h]

/-- So are the name and the parameters of its handler. -/
theorem handler?_eq_of_statements_eq (h : i.statements = i'.statements) (id : ViewId) :
    (i.handler? id).map (fun d => (d.name, d.params)) =
      (i'.handler? id).map fun d => (d.name, d.params) := by
  refine Option.ext fun ⟨name, params⟩ => ?_
  rw [← listen_mem_statements, ← listen_mem_statements, h]

end Injector

/-! ## Rounds of valid manifests -/

/-- Everything that the rounds report is declared by some valid manifest. -/
def DeclaredValid (rounds : List Round) : Prop :=
  ∀ round ∈ rounds, ∀ kind, ∀ d ∈ round.reported kind,
    ∃ m : Manifest, m.check = .ok () ∧ d ∈ m.declarations

section

variable {rounds rounds' : List Round} {i i' : Injector} {settings : Settings}
  {version : SourceVersion}

theorem DeclaredValid.exists_class (h : DeclaredValid rounds) {round : Round} (hr : round ∈ rounds)
    {kind : AnnotationKind} {d : Declaration} (hd : d ∈ round.reported kind) :
    ∃ m : Manifest, m.Valid ∧ ∃ c ∈ m.classes, d ∈ c.declarations := by
  obtain ⟨m, hm, hmem⟩ := h round hr kind d hd
  exact ⟨m, Manifest.check_eq_ok_iff.mp hm, List.mem_flatMap.mp hmem⟩

/-- The statements of an injector are legal, and each handler takes one view at most. -/
theorem DeclaredValid.legal_statements (h : DeclaredValid rounds)
    (hi : i ∈ (Roster.gatherAll rounds).values) :
    ∀ x ∈ i.statements, x.Legal ∧ x.IsCallable := by
  obtain ⟨owner, hget⟩ := SortedMap.mem_values_iff.mp hi
  intro x hx
  obtain ⟨kind, hx⟩ := Injector.mem_statements.mp hx
  obtain ⟨id, d, hd, rfl⟩ := Injector.mem_statementsOf.mp hx
  -- What is bound to a view is its first claimant, so it was reported in some round.
  obtain ⟨rest, hclaims⟩ := (Roster.records_gatherAll hget kind).get?_some hd
  obtain ⟨round, hround, hreported, hclaim⟩ := mem_claimants.mp (hclaims ▸ List.mem_cons_self)
  obtain ⟨⟨place, hplace⟩, -⟩ := Declaration.claims_iff.mp hclaim
  obtain ⟨m, hm, c, hc, hdc⟩ := h.exists_class hround hreported
  refine ⟨Manifest.legal_ofClaim (hm.classes c hc) hdc hplace id, ?_⟩
  cases kind with
  | bindView => trivial
  | onClick =>
    rcases Declaration.params_of_handler hplace with hparams | ⟨type, hparams, -⟩
    · simp [Statement.ofClaim, Statement.IsCallable, hparams]
    · simp [Statement.ofClaim, Statement.IsCallable, hparams]

/-- An injector is made for a class of a valid manifest, so its frame is legal. -/
theorem DeclaredValid.legalFrame (h : DeclaredValid rounds) (hs : settings.check = .ok ())
    (hi : i ∈ (Roster.gatherAll rounds).values)
    (hid : Java.IsIdentifier (i.host.injectorName settings.classSuffix)) :
    LegalFrame settings i.host := by
  obtain ⟨owner, hget⟩ := SortedMap.mem_values_iff.mp hi
  obtain ⟨-, r, hr, -, howner⟩ := (Roster.reflects_gatherAll rounds).host owner i hget
  obtain ⟨round, hround, hr⟩ := List.mem_flatMap.mp hr
  obtain ⟨m, hm, c, hc, hd⟩ := h.exists_class hround (Round.mem_sightings.mp hr)
  obtain ⟨e, -, hdeclared⟩ := List.mem_map.mp hd
  have hhost : i.host = c.host := by
    rw [← hdeclared] at howner
    exact (Option.some.inj howner).symm
  rw [hhost] at hid ⊢
  exact Manifest.legalFrame hm hs hc hid

/-- Two injectors of valid manifests with the same source are injectors of the same class, bind the
same views, and bind each to the same field and the same handler. -/
theorem bindings_eq_of_source_eq (hs : settings.check = .ok ()) (h : DeclaredValid rounds)
    (h' : DeclaredValid rounds') (hi : i ∈ (Roster.gatherAll rounds).values)
    (hi' : i' ∈ (Roster.gatherAll rounds').values) {text : String}
    (htext : i.source? settings version = .ok text)
    (htext' : i'.source? settings version = .ok text) :
    i.host.name = i'.host.name ∧ i.host.package = i'.host.package ∧
      i.fields.bound.keys = i'.fields.bound.keys ∧
      i.handlers.bound.keys = i'.handlers.bound.keys ∧
      (∀ id, (i.field? id).map (fun d => (d.name, d.type)) =
        (i'.field? id).map fun d => (d.name, d.type)) ∧
      ∀ id, (i.handler? id).map (fun d => (d.name, d.params)) =
        (i'.handler? id).map fun d => (d.name, d.params) := by
  obtain ⟨-, hid, hrender⟩ := Injector.source?_eq_ok.mp htext
  obtain ⟨-, hid', hrender'⟩ := Injector.source?_eq_ok.mp htext'
  rw [hrender, Injector.render_classSteps, Injector.render_classSteps] at hrender'
  -- The text is that of the lines, and legal lines can be read back from it.
  obtain ⟨hname, hpackage, hstatements⟩ := injectorLines_inj (h.legalFrame hs hi hid)
    (h'.legalFrame hs hi' hid') (h.legal_statements hi) (h'.legal_statements hi') hrender'
  have hfields := Injector.field?_eq_of_statements_eq hstatements
  have hhandlers := Injector.handler?_eq_of_statements_eq hstatements
  refine ⟨hname, hpackage, SortedMap.keys_congr fun id => ?_, SortedMap.keys_congr fun id => ?_,
    hfields, hhandlers⟩
  · have hsome := congrArg Option.isSome (hfields id)
    rw [Option.isSome_map, Option.isSome_map] at hsome
    rw [SortedMap.mem_keys_iff_isSome, SortedMap.mem_keys_iff_isSome]
    exact Bool.eq_iff_iff.mp hsome
  · have hsome := congrArg Option.isSome (hhandlers id)
    rw [Option.isSome_map, Option.isSome_map] at hsome
    rw [SortedMap.mem_keys_iff_isSome, SortedMap.mem_keys_iff_isSome]
    exact Bool.eq_iff_iff.mp hsome

end

/-- The source of the one class of a manifest. -/
def paneSource? (m : Manifest) : Option String :=
  ((Roster.gatherAll [m.round]).get? "app.Pane").bind fun i => (i.source? {} {}).toOption

/-- A class with a field and a method that handles two views. -/
def paneManifest : Manifest where
  classes := [
    { name := "app.Pane"
      members := [
        { kind := .field, name := "title", type := "app.Label []", bindView := some 1 },
        { kind := .method, name := "tap", type := "void", params := ["app.Button"]
          onClick := some [1, 2] }] }]

/-- The same bindings, listed the other way round on members that differ in what is not written. -/
def turnedPaneManifest : Manifest where
  classes := [
    { name := "app.Pane", source := some "app/Pane.java"
      members := [
        { kind := .method, name := "tap", type := "int", params := ["app.Button"]
          onClick := some [2, 1] },
        { kind := .field, name := "title", type := "app.Label []", bindView := some 1
          modifiers := [.publicAccess] }] }]

theorem declaredValid_round {m : Manifest} (h : m.check = .ok ()) : DeclaredValid [m.round] := by
  intro round hround kind d hd
  rw [List.mem_singleton.mp hround] at hd
  exact ⟨m, h, List.mem_of_mem_filter hd⟩

/-- A class with a source is in the roster. -/
theorem exists_of_paneSource? {m : Manifest} {text : String} (h : paneSource? m = some text) :
    ∃ i ∈ (Roster.gatherAll [m.round]).values, i.source? {} {} = .ok text := by
  obtain ⟨i, hi, htext⟩ := Option.bind_eq_some_iff.mp h
  refine ⟨i, SortedMap.mem_values_iff.mpr ⟨_, hi⟩, ?_⟩
  cases hsource : i.source? {} {} with
  | error e => rw [hsource] at htext; cases htext
  | ok contents => rw [hsource] at htext; exact congrArg Except.ok (Option.some.inj htext)

theorem bindings_eq_of_source_eq_paneManifests :
    ({} : Settings).check = .ok () ∧ paneManifest.check = .ok () ∧
    turnedPaneManifest.check = .ok () ∧ ∃ text : String,
      ∃ i ∈ (Roster.gatherAll [paneManifest.round]).values,
      ∃ i' ∈ (Roster.gatherAll [turnedPaneManifest.round]).values,
        i.source? {} {} = .ok text ∧ i'.source? {} {} = .ok text ∧
        i.host.name = i'.host.name ∧ i.fields.bound.keys = i'.fields.bound.keys ∧
        ∀ id, (i.handler? id).map (fun d => (d.name, d.params)) =
          (i'.handler? id).map fun d => (d.name, d.params) := by
  have hcheck : paneManifest.check = .ok () := by decide +kernel
  have hcheck' : turnedPaneManifest.check = .ok () := by decide +kernel
  have hsome : (paneSource? paneManifest).isSome = true := by decide +kernel
  have hsame : paneSource? turnedPaneManifest = paneSource? paneManifest := by decide +kernel
  obtain ⟨text, htext⟩ := Option.isSome_iff_exists.mp hsome
  obtain ⟨i, hi, hsource⟩ := exists_of_paneSource? htext
  obtain ⟨i', hi', hsource'⟩ := exists_of_paneSource? (hsame.trans htext)
  obtain ⟨hname, -, hfields, -, -, hhandlers⟩ := bindings_eq_of_source_eq Settings.check_default
    (declaredValid_round hcheck) (declaredValid_round hcheck') hi hi' hsource hsource'
  exact ⟨Settings.check_default, hcheck, hcheck', text, i, hi, i', hi', hsource, hsource', hname,
    hfields, hhandlers⟩

end ViewBinding
