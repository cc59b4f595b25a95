import ViewBinding.Proofs.Gathering.Isolation
import ViewBinding.Proofs.Session.InMemory

/-!
# Rounds go class by class

With a store in memory, what a round does with a class hangs on the accepted declarations of that
class, on the settings, and on what the store knows of the name of its injector. Other classes come
in only where they have an injector of the same name.

* `Session.filter_settleAll`: the verdict on an injector is the one it would get alone.
* `Session.filter_verdicts_congr`: two rounds come to one verdict on a class.
* `Session.runRound_isolated`: two rounds do the same with a class.
-/

namespace ViewBinding

/-- The qualified name of the injector that a round calls for by the class of that name. -/
def Round.injectorNameOf? (round : Round) (suffix owner : String) : Option String :=
  ((round.gatherInto .empty).roster.get? owner).map (·.host.injectorQualifiedName suffix)

/-- No other class of the round has an injector of that name. -/
def Round.NoOther (round : Round) (suffix owner name : String) : Prop :=
  ∀ i ∈ (round.gatherInto .empty).roster.values, i.host.name ≠ owner →
    i.host.injectorQualifiedName suffix ≠ name

instance (round : Round) (suffix owner name : String) :
    Decidable (round.NoOther suffix owner name) := by
  unfold Round.NoOther
  infer_instance

namespace Session

variable {s s' : Session} {round round' : Round} {owner : String}

/-! ## Verdicts -/

/-- The names that a run takes are names of injectors in it. -/
theorem exists_injector_of_mem_generatedFiles {is : List Injector} {st : MemoryStore}
    {file : SourceFile} (h : file ∈ generatedFiles (s.settleAll MemoryStore.store is st).1) :
    ∃ i ∈ is, file.name = i.host.injectorQualifiedName s.settings.classSuffix := by
  obtain ⟨v, hv, hfile⟩ := List.mem_filterMap.mp h
  obtain ⟨g, hg, rfl⟩ := Option.map_eq_some_iff.mp hfile
  have hsettled := (s.returns_settleAll MemoryStore.store is).of_state st
  obtain ⟨i, hi, -, hfits⟩ := exists_mem_of_forall₂ hsettled hv
  refine ⟨i, hi, ?_⟩
  cases hverdict : v.2 with
  | generated source =>
    rw [hverdict] at hg hfits
    cases hg
    exact Injector.qualifiedName_of_generate hfits.2
  | skipped conflicts => rw [hverdict] at hg; cases hg
  | failed e => rw [hverdict] at hg; cases hg

/-- Where injectors belong to different classes and no other one has its name, the verdict on an
injector is the one it would get alone. -/
theorem filter_settleAll {is : List Injector} (hnd : (is.map (·.host.name)).Nodup) {i : Injector}
    (hi : i ∈ is) (st : MemoryStore)
    (hother : ∀ j ∈ is, j.host.name ≠ i.host.name → j.host.injectorQualifiedName
      s.settings.classSuffix ≠ i.host.injectorQualifiedName s.settings.classSuffix) :
    (s.settleAll MemoryStore.store is st).1.filter (·.1.name = i.host.name) =
      [(s.settle MemoryStore.store i st).1] := by
  obtain ⟨before, after, rfl⟩ := List.append_of_mem hi
  have hfresh : i.host.name ∉ before.map (·.host.name) := by
    rw [List.map_append, List.map_cons, List.nodup_middle, List.nodup_cons, List.mem_append] at hnd
    exact fun hmem => hnd.1 (.inl hmem)
  -- What was settled before has taken other names than that of the injector.
  have hagree : st.AgreeOn (s.settleAll MemoryStore.store before st).2
      (i.host.injectorQualifiedName s.settings.classSuffix) := by
    refine (s.grown_settleAll before st).agreeOn fun file hfile => ?_
    obtain ⟨j, hj, hname⟩ := exists_injector_of_mem_generatedFiles hfile
    rw [hname]
    refine hother j (List.mem_append_left _ hj) fun heq => hfresh ?_
    exact heq ▸ List.mem_map_of_mem hj
  have hsame : (s.settle MemoryStore.store i st).1 =
      (s.settle MemoryStore.store i (s.settleAll MemoryStore.store before st).2).1 :=
    settle_congr_agreeOn rfl rfl hagree
  rw [s.filter_settleAll_middle hnd, hsame]

/-- The verdicts of a round on the injectors it gathers. -/
def verdictsOf (s : Session) (round : Round) (st : MemoryStore) : List (HostClass × Verdict) :=
  (s.settleAll MemoryStore.store (round.gatherInto .empty).roster.values st).1

theorem settled_verdictsOf (s : Session) (round : Round) (st : MemoryStore) :
    List.Forall₂ (Settled s) (round.gatherInto .empty).roster.values (s.verdictsOf round st) :=
  (s.returns_settleAll MemoryStore.store _).of_state st

theorem runRound_inMemory (s : Session) (round : Round) (st : MemoryStore) :
    (s.runRound MemoryStore.store round st).1 =
      (s.afterRound round (round.gatherInto .empty) (s.verdictsOf round st),
        .ofVerdicts (s.rounds + 1) (round.gatherInto .empty).tally (s.verdictsOf round st)) := rfl

/-- The verdict of a round on a class, where no other class of the round has an injector of its
name. -/
theorem filter_verdictsOf {i : Injector}
    (hi : (round.gatherInto .empty).roster.get? owner = some i) (st : MemoryStore)
    (hother : round.NoOther s.settings.classSuffix owner
      (i.host.injectorQualifiedName s.settings.classSuffix)) :
    (s.verdictsOf round st).filter (·.1.name = owner) = [(s.settle MemoryStore.store i st).1] := by
  have hreflects := Roster.reflects_gatherAll [round]
  have hname : i.host.name = owner := (hreflects.host owner i hi).1
  subst hname
  refine filter_settleAll ?_ (SortedMap.mem_values_iff.mpr ⟨_, hi⟩) st hother
  exact hreflects.names_eq ▸ SortedMap.keys_nodup _

theorem filter_verdictsOf_of_none (hnone : (round.gatherInto .empty).roster.get? owner = none)
    (st : MemoryStore) : (s.verdictsOf round st).filter (·.1.name = owner) = [] := by
  refine filter_name_eq_nil fun hmem => ?_
  rw [names_of_round (s.settled_verdictsOf round st), SortedMap.mem_keys_iff_isSome] at hmem
  have hisNone : (Roster.gatherAll [round]).get? owner = none := hnone
  rw [hisNone] at hmem
  cases hmem

/-- Two rounds come to one verdict on a class. -/
theorem filter_verdicts_congr (hsettings : s.settings = s'.settings)
    (hversion : s.version = s'.version) {st st' : MemoryStore}
    (h : ∀ kind, round.acceptedOf owner kind = round'.acceptedOf owner kind)
    (hname : ∀ name, round.injectorNameOf? s.settings.classSuffix owner = some name →
      st.AgreeOn st' name ∧ round.NoOther s.settings.classSuffix owner name ∧
        round'.NoOther s.settings.classSuffix owner name) :
    (s.verdictsOf round st).filter (·.1.name = owner) =
      (s'.verdictsOf round' st').filter (·.1.name = owner) := by
  have hget := Round.get?_gatherInto_congr h
  -- The rounds gather the same for the class, so both have an injector for it or neither.
  cases hi : (round.gatherInto .empty).roster.get? owner with
  | none => rw [filter_verdictsOf_of_none hi, filter_verdictsOf_of_none (hget ▸ hi)]
  | some i =>
    obtain ⟨hagree, hother, hother'⟩ := hname _ (by rw [Round.injectorNameOf?, hi, Option.map_some])
    rw [filter_verdictsOf hi st hother,
      filter_verdictsOf (hget ▸ hi) st' (hsettings ▸ hother'),
      settle_congr_agreeOn hsettings hversion hagree]

/-! ## Outcomes and logs -/

/-- The sources of a class among those of verdicts are the sources of its verdicts. -/
theorem filter_owner_generated {is : List Injector} {verdicts : List (HostClass × Verdict)}
    (hv : List.Forall₂ (Settled s) is verdicts) :
    (verdicts.filterMap (·.2.generated?)).filter (·.owner = owner) =
      (verdicts.filter (·.1.name = owner)).filterMap (·.2.generated?) := by
  induction hv with
  | nil => rfl
  | @cons i v _ rest hhead _ ih =>
    obtain ⟨hhost, hfits⟩ := hhead
    cases hverdict : v.2 with
    | generated source =>
      rw [hverdict] at hfits
      have howner : source.owner = v.1.name := by
        rw [Injector.owner_of_generate hfits.2, hhost]
      by_cases ho : v.1.name = owner <;> simp [hverdict, howner, ho, ih]
    | skipped conflicts => by_cases ho : v.1.name = owner <;> simp [hverdict, ho, ih]
    | failed e => by_cases ho : v.1.name = owner <;> simp [hverdict, ho, ih]

/-- The errors on a class among those of verdicts are the errors of its verdicts. -/
theorem filter_subject_diagnostics (verdicts : List (HostClass × Verdict)) (owner : String) :
    (verdicts.flatMap fun v => v.2.diagnostics v.1).filter (·.subject = some owner) =
      (verdicts.filter (·.1.name = owner)).flatMap fun v => v.2.diagnostics v.1 := by
  have hsubject (v : HostClass × Verdict) :
      (v.2.diagnostics v.1).filter (·.subject = some owner) =
        if v.1.name = owner then v.2.diagnostics v.1 else [] := by
    split
    · next ho =>
      refine List.filter_eq_self.mpr fun x hx => ?_
      obtain ⟨message, -, rfl⟩ := List.mem_map.mp hx
      simp [Diagnostic.onClass, ho]
    · next ho =>
      refine List.filter_eq_nil_iff.mpr fun x hx => ?_
      obtain ⟨message, -, rfl⟩ := List.mem_map.mp hx
      simp [Diagnostic.onClass, ho]
  induction verdicts with
  | nil => rfl
  | cons v rest ih =>
    rw [List.flatMap_cons, List.filter_append, ih, hsubject, List.filter_cons]
    by_cases ho : v.1.name = owner <;> simp [ho]

/-- Two rounds have done the same with a class: it is in the same lists of both outcomes, with the
same sources, and it has the same errors among those that follow the rejections. -/
structure SameOn (owner : String) (added added' : List Diagnostic) (o o' : Outcome) : Prop where
  generated : o.generated.filter (·.owner = owner) = o'.generated.filter (·.owner = owner)
  skipped : owner ∈ o.skipped ↔ owner ∈ o'.skipped
  failed : owner ∈ o.failed ↔ owner ∈ o'.failed
  errors : added.filter (·.subject = some owner) = added'.filter (·.subject = some owner)

theorem sameOn_of_verdicts {is is' : List Injector}
    {verdicts verdicts' : List (HostClass × Verdict)}
    (hv : List.Forall₂ (Settled s) is verdicts) (hv' : List.Forall₂ (Settled s') is' verdicts')
    (heq : verdicts.filter (·.1.name = owner) = verdicts'.filter (·.1.name = owner))
    {number number' : Nat} {tally tally' : Tally} :
    SameOn owner (verdicts.flatMap fun v => v.2.diagnostics v.1)
      (verdicts'.flatMap fun v => v.2.diagnostics v.1) (.ofVerdicts number tally verdicts)
      (.ofVerdicts number' tally' verdicts') where
  generated := by
    simp only [Outcome.ofVerdicts]
    rw [filter_owner_generated hv, filter_owner_generated hv', heq]
  skipped := by
    simp only [Outcome.ofVerdicts]
    rw [mem_names_filter_iff, mem_names_filter_iff, heq]
  failed := by
    simp only [Outcome.ofVerdicts]
    rw [mem_names_filter_iff, mem_names_filter_iff, heq]
  errors := by rw [filter_subject_diagnostics, filter_subject_diagnostics, heq]

/-- Two rounds, run in memory, do the same with a class: its outcomes are the same, and so are its
errors among those that follow the note and the rejections. -/
def TreatAlike (owner : String) (s s' : Session) (round round' : Round) (st st' : MemoryStore) :
    Prop :=
  let r := (s.runRound MemoryStore.store round st).1
  let r' := (s'.runRound MemoryStore.store round' st').1
  ∃ added added' : List Diagnostic,
    r.1.log = s.log ++ roundNote (s.rounds + 1) round.final :: (round.rejections ++ added) ∧
    r'.1.log = s'.log ++ roundNote (s'.rounds + 1) round'.final :: (round'.rejections ++ added') ∧
    SameOn owner added added' r.2 r'.2

/-- Take two rounds that report the same accepted declarations of a class. They gather one injector
for it, or none. With equal settings and versions, and stores that agree on the name of its
injector, which no other class has, they also do the same with it. -/
theorem runRound_isolated
    (h : ∀ kind, round.acceptedOf owner kind = round'.acceptedOf owner kind) :
    (round.gatherInto .empty).roster.get? owner = (round'.gatherInto .empty).roster.get? owner ∧
    ∀ (s s' : Session) (st st' : MemoryStore), s.settings = s'.settings → s.version = s'.version →
      (∀ name, round.injectorNameOf? s.settings.classSuffix owner = some name →
        st.AgreeOn st' name ∧ round.NoOther s.settings.classSuffix owner name ∧
          round'.NoOther s.settings.classSuffix owner name) →
      TreatAlike owner s s' round round' st st' := by
  refine ⟨Round.get?_gatherInto_congr h, fun s s' st st' hsettings hversion hname => ?_⟩
  refine ⟨_, _, ?_, ?_, sameOn_of_verdicts (s.settled_verdictsOf round st)
    (s'.settled_verdictsOf round' st') (filter_verdicts_congr hsettings hversion h hname)⟩
  · simp [runRound_inMemory, afterRound, Round.gatherInto, Gathering.gather_log]
  · simp [runRound_inMemory, afterRound, Round.gatherInto, Gathering.gather_log]

/-- A round with the declaration of `mixedRound` that is accepted for `Main`. Around it there are a
declaration outside any class, one of `Main` that is rejected, and one of another class. -/
def strayRound : Round :=
  .ofDeclarations [
    { kind := .field, name := "stray", type := "Label", annotations := [.bindView 1] },
    { kind := .field, name := "hidden", type := "Label", modifiers := [.privateAccess]
      owner := some (.ofName "Main"), annotations := [.bindView 10] },
    { kind := .field, name := "title", type := "Label", owner := some (.ofName "Main")
      annotations := [.bindView 10] },
    { kind := .method, name := "onTap", type := "void", owner := some (.ofName "Pair")
      annotations := [.onClick [1]] }]

theorem runRound_isolated_strayRound :
    let s : Session := { settings := {}, version := {} }
    let s' : Session := { settings := {}, version := {}, rounds := 3 }
    let st : MemoryStore := { refused := ["Gone$$ViewInjector"] }
    (∀ kind, mixedRound.acceptedOf "Main" kind = strayRound.acceptedOf "Main" kind) ∧
    s.settings = s'.settings ∧ s.version = s'.version ∧
    (∀ name, mixedRound.injectorNameOf? s.settings.classSuffix "Main" = some name →
      st.AgreeOn {} name ∧ mixedRound.NoOther s.settings.classSuffix "Main" name ∧
        strayRound.NoOther s.settings.classSuffix "Main" name) ∧
    TreatAlike "Main" s s' mixedRound strayRound st {} ∧
    (s.runRound MemoryStore.store mixedRound st).1.2.generated.map (·.owner) = ["Main"] ∧
    (s'.runRound MemoryStore.store strayRound {}).1.2.generated.map (·.owner) =
      ["Main", "Pair"] := by
  have hsame : ∀ kind, mixedRound.acceptedOf "Main" kind = strayRound.acceptedOf "Main" kind := by
    intro kind
    cases kind <;> decide +kernel
  have hname : mixedRound.injectorNameOf? ({} : Settings).classSuffix "Main" =
      some "Main$$ViewInjector" := by decide +kernel
  intro s s' st
  have hagree : ∀ name, mixedRound.injectorNameOf? s.settings.classSuffix "Main" = some name →
      st.AgreeOn {} name ∧ mixedRound.NoOther s.settings.classSuffix "Main" name ∧
        strayRound.NoOther s.settings.classSuffix "Main" name := by
    intro name hn
    rw [hname, Option.some.injEq] at hn
    subst hn
    exact ⟨⟨by decide +kernel, by decide +kernel⟩, by decide +kernel, by decide +kernel⟩
  exact ⟨hsame, rfl, rfl, hagree, (runRound_isolated hsame).2 s s' st {} rfl rfl hagree,
    by decide +kernel, by decide +kernel⟩

end Session

end ViewBinding
