import ViewBinding.Injector.Emission
import ViewBinding.Proofs.Store.Memory

/-!
# Emission is all or nothing

An emission asks for five things, one after the other: no conflicts, a legal simple name, a legal
qualified name, and a store that neither refuses that name nor has it already. If all are given, the
store has one source more and is the same otherwise. If not, the store is left as it was, and the
error is that of the first thing missing.

* `Injector.exists_generate_iff`: the injector has a source.
* `Injector.emitsTo`: the three ends of an emission with a store in memory.
* `Injector.emit_congr_agreeOn`: stores that agree on the name of an injector answer alike.
* `Injector.FirstMissing`: the first thing missing, with its error; `FirstMissing.unique`: there is
  only one.
* `Injector.EmitsTo.of_error`, `of_ok`, `exists_ok_iff`: what either end says.
* `Injector.emit_all_or_nothing`: when an emission succeeds, and what either end leaves behind.
-/

namespace ViewBinding

/-- The generated source as it is handed to a store. -/
def Generated.file (g : Generated) (host : HostClass) : SourceFile :=
  ⟨g.qualifiedName, host, g.contents⟩

namespace Injector

variable {i : Injector} {settings : Settings} {version : SourceVersion} {st : MemoryStore}
  {g : Generated} {e : EmissionError}

/-! ## Sources -/

/-- The injector has a source. -/
def HasSource (i : Injector) (settings : Settings) : Prop :=
  i.conflicts = [] ∧ Java.IsIdentifier (i.host.injectorName settings.classSuffix)

theorem exists_generate_iff (i : Injector) (settings : Settings) (version : SourceVersion) :
    (∃ g, i.generate settings version = .ok g) ↔ i.HasSource settings := by
  unfold generate HasSource
  cases hs : i.source? settings version with
  | error e =>
    simp only [reduceCtorEq, exists_false, false_iff]
    rintro ⟨hnil, hid⟩
    cases hs.symm.trans (source?_eq_ok.mpr ⟨hnil, hid, rfl⟩)
  | ok text =>
    obtain ⟨hnil, hid, -⟩ := source?_eq_ok.mp hs
    simp [hnil, hid]

/-- What a generated source consists of. -/
structure GeneratedFrom (i : Injector) (settings : Settings) (version : SourceVersion)
    (g : Generated) : Prop where
  owner : g.owner = i.host.name
  qualifiedName : g.qualifiedName = i.host.injectorQualifiedName settings.classSuffix
  bindings : g.bindings = i.size
  contents : i.source? settings version = .ok g.contents

theorem generatedFrom_of_generate (h : i.generate settings version = .ok g) :
    i.GeneratedFrom settings version g := by
  unfold generate at h
  split at h
  · cases h
  · next contents hs =>
    cases h
    exact ⟨rfl, rfl, rfl, hs⟩

theorem qualifiedName_of_generate (h : i.generate settings version = .ok g) :
    g.qualifiedName = i.host.injectorQualifiedName settings.classSuffix :=
  (generatedFrom_of_generate h).qualifiedName

/-! ## The ends of an emission -/

/-- The ends of an emission with a store in memory. -/
inductive EmitsTo (i : Injector) (settings : Settings) (version : SourceVersion)
    (st : MemoryStore) : Except EmissionError Generated × MemoryStore → Prop
  /-- There is no source. -/
  | sourceless {e : EmissionError} (hg : i.generate settings version = .error e) :
    EmitsTo i settings version st (.error e, st)
  /-- The store has not taken the source. -/
  | refused {g : Generated} {cause : StoreError} (hg : i.generate settings version = .ok g)
    (hc : st.create (g.file i.host) = .error cause) :
    EmitsTo i settings version st (.error (.store i.host.name cause), st)
  /-- The store has taken the source. -/
  | taken {g : Generated} {st' : MemoryStore} (hg : i.generate settings version = .ok g)
    (hc : st.create (g.file i.host) = .ok st') : EmitsTo i settings version st (.ok g, st')

theorem emitsTo (i : Injector) (settings : Settings) (version : SourceVersion) (st : MemoryStore) :
    i.EmitsTo settings version st (i.emit settings version MemoryStore.store st) := by
  unfold emit
  cases hg : i.generate settings version with
  | error e => exact .sourceless hg
  | ok g =>
    simp only [Bind.bind, StateT.bind, MemoryStore.store]
    cases hs : st.create (g.file i.host) with
    | error cause =>
      unfold Generated.file at hs
      simp only [hs]
      exact .refused hg hs
    | ok st' =>
      unfold Generated.file at hs
      simp only [hs]
      exact .taken hg hs

/-- The answer to an emission. -/
theorem emit_inMemory (st : MemoryStore) :
    (i.emit settings version MemoryStore.store st).1 =
      match i.generate settings version with
      | .error e => .error e
      | .ok g =>
        match (st.create (g.file i.host)).map fun _ => () with
        | .error cause => .error (.store i.host.name cause)
        | .ok () => .ok g := by
  have hend := i.emitsTo settings version st
  generalize i.emit settings version MemoryStore.store st = r at hend
  cases hend with
  | sourceless hg => rw [hg]
  | refused hg hc => simp [hg, hc, Except.map]
  | taken hg hc => simp [hg, hc, Except.map]

/-- Stores that agree on the name of an injector answer its emission alike. -/
theorem emit_congr_agreeOn (version : SourceVersion) {st st' : MemoryStore}
    (h : st.AgreeOn st' (i.host.injectorQualifiedName settings.classSuffix)) :
    (i.emit settings version MemoryStore.store st).1 =
      (i.emit settings version MemoryStore.store st').1 := by
  rw [emit_inMemory, emit_inMemory]
  cases hg : i.generate settings version with
  | error e => rfl
  | ok g =>
    have hname : st.AgreeOn st' (g.file i.host).name := by
      rw [← qualifiedName_of_generate hg] at h
      exact h
    simp only [MemoryStore.map_create_congr hname]

/-! ## What is missing -/

/-- The first of the things asked for that is missing, with the error that says so. -/
inductive FirstMissing (i : Injector) (settings : Settings) (st : MemoryStore) :
    EmissionError → Prop
  /-- Some view is disputed. -/
  | conflicted (h : i.conflicts ≠ []) :
    FirstMissing i settings st
      (.source i.host.name (.conflicted i.host.name i.conflicts.length))
  /-- The simple name is not legal. -/
  | className {fault : Java.IdentifierFault} (hagreed : i.conflicts = [])
    (h : Java.checkIdentifier (i.host.injectorName settings.classSuffix) = .error fault) :
    FirstMissing i settings st
      (.source i.host.name (.invalidName (i.host.injectorName settings.classSuffix) fault))
  /-- The qualified name is not legal. -/
  | qualifiedName {fault : Java.NameFault} (hsource : i.HasSource settings)
    (h : Java.checkQualifiedName (i.host.injectorQualifiedName settings.classSuffix) =
      .error fault) :
    FirstMissing i settings st
      (.store i.host.name (.invalidName (i.host.injectorQualifiedName settings.classSuffix) fault))
  /-- The store has been told to refuse the name. -/
  | refused (hsource : i.HasSource settings)
    (hlegal : Java.IsQualifiedName (i.host.injectorQualifiedName settings.classSuffix))
    (h : i.host.injectorQualifiedName settings.classSuffix ∈ st.refused) :
    FirstMissing i settings st
      (.store i.host.name (.rejected (i.host.injectorQualifiedName settings.classSuffix)))
  /-- The store has a source of that name. -/
  | taken (hsource : i.HasSource settings)
    (hlegal : Java.IsQualifiedName (i.host.injectorQualifiedName settings.classSuffix))
    (hallowed : i.host.injectorQualifiedName settings.classSuffix ∉ st.refused)
    (h : st.Holds (i.host.injectorQualifiedName settings.classSuffix)) :
    FirstMissing i settings st
      (.store i.host.name (.alreadyExists (i.host.injectorQualifiedName settings.classSuffix)))

theorem firstMissing_of_generate (h : i.generate settings version = .error e) :
    i.FirstMissing settings st e := by
  unfold generate source? at h
  cases hc : i.hasConflicts with
  | true =>
    simp only [hc, if_true] at h
    cases h
    refine .conflicted fun hnil => ?_
    rw [hasConflicts_eq_false_iff.mpr hnil] at hc
    cases hc
  | false =>
    cases hn : Java.checkIdentifier (i.host.injectorName settings.classSuffix) with
    | error fault =>
      simp only [hc, hn, Bool.false_eq_true, if_false] at h
      cases h
      exact .className (hasConflicts_eq_false_iff.mp hc) hn
    | ok =>
      simp only [hc, hn, Bool.false_eq_true, if_false] at h
      cases h

theorem firstMissing_of_create {cause : StoreError} (hg : i.generate settings version = .ok g)
    (hc : st.create (g.file i.host) = .error cause) :
    i.FirstMissing settings st (.store i.host.name cause) := by
  have hsource := (i.exists_generate_iff settings version).mp ⟨g, hg⟩
  have hname : (g.file i.host).name = i.host.injectorQualifiedName settings.classSuffix :=
    qualifiedName_of_generate hg
  unfold MemoryStore.create at hc
  rw [hname] at hc
  cases hn : Java.checkQualifiedName (i.host.injectorQualifiedName settings.classSuffix) with
  | error fault =>
    rw [hn] at hc
    cases hc
    exact .qualifiedName hsource hn
  | ok =>
    simp only [hn] at hc
    have hlegal := Java.checkQualifiedName_eq_ok_iff.mp hn
    split at hc
    · next hrefused =>
      cases hc
      exact .refused hsource hlegal (List.contains_iff_mem.mp hrefused)
    · next hallowed =>
      split at hc
      · next hheld =>
        cases hc
        exact .taken hsource hlegal (mt List.contains_iff_mem.mpr hallowed) hheld
      · cases hc

/-- With something missing, not all is given. -/
theorem FirstMissing.not_given (h : i.FirstMissing settings st e) :
    ¬ (i.HasSource settings ∧ st.Takes (i.host.injectorQualifiedName settings.classSuffix)) := by
  rintro ⟨⟨hagreed, hid⟩, hlegal, hallowed, hnew⟩
  cases h with
  | conflicted h => exact h hagreed
  | className _ h => cases h.symm.trans (Java.checkIdentifier_eq_ok_iff.mpr hid)
  | qualifiedName _ h => cases h.symm.trans (Java.checkQualifiedName_eq_ok_iff.mpr hlegal)
  | refused _ _ h => exact hallowed h
  | taken _ _ _ h => exact hnew h

/-- Only one thing is the first one missing: for each, all before it are given. -/
theorem FirstMissing.unique {e' : EmissionError} (h : i.FirstMissing settings st e)
    (h' : i.FirstMissing settings st e') : e = e' := by
  cases h with
  | conflicted h =>
    cases h' with
    | conflicted => rfl
    | className hagreed => exact absurd hagreed h
    | qualifiedName hsource => exact absurd hsource.1 h
    | refused hsource => exact absurd hsource.1 h
    | taken hsource => exact absurd hsource.1 h
  | className hagreed h =>
    have hillegal : ¬ i.HasSource settings := fun hsource => by
      cases h.symm.trans (Java.checkIdentifier_eq_ok_iff.mpr hsource.2)
    cases h' with
    | conflicted h' => exact absurd hagreed h'
    | className _ h' =>
      cases h.symm.trans h'
      rfl
    | qualifiedName hsource => exact absurd hsource hillegal
    | refused hsource => exact absurd hsource hillegal
    | taken hsource => exact absurd hsource hillegal
  | qualifiedName hsource h =>
    cases h' with
    | conflicted h' => exact absurd hsource.1 h'
    | className _ h' => cases h'.symm.trans (Java.checkIdentifier_eq_ok_iff.mpr hsource.2)
    | qualifiedName _ h' =>
      cases h.symm.trans h'
      rfl
    | refused _ hlegal => cases h.symm.trans (Java.checkQualifiedName_eq_ok_iff.mpr hlegal)
    | taken _ hlegal => cases h.symm.trans (Java.checkQualifiedName_eq_ok_iff.mpr hlegal)
  | refused hsource hlegal h =>
    cases h' with
    | conflicted h' => exact absurd hsource.1 h'
    | className _ h' => cases h'.symm.trans (Java.checkIdentifier_eq_ok_iff.mpr hsource.2)
    | qualifiedName _ h' => cases h'.symm.trans (Java.checkQualifiedName_eq_ok_iff.mpr hlegal)
    | refused => rfl
    | taken _ _ hallowed => exact absurd h hallowed
  | taken hsource hlegal hallowed =>
    cases h' with
    | conflicted h' => exact absurd hsource.1 h'
    | className _ h' => cases h'.symm.trans (Java.checkIdentifier_eq_ok_iff.mpr hsource.2)
    | qualifiedName _ h' => cases h'.symm.trans (Java.checkQualifiedName_eq_ok_iff.mpr hlegal)
    | refused _ _ h' => exact absurd h' hallowed
    | taken => rfl

/-! ## Both ends -/

section

variable {r : Except EmissionError Generated × MemoryStore}

/-- An emission that fails leaves the store as it was, and something is missing. -/
theorem EmitsTo.of_error (h : i.EmitsTo settings version st r) (he : r.1 = .error e) :
    r.2 = st ∧ i.FirstMissing settings st e := by
  cases h with
  | sourceless hg =>
    cases he
    exact ⟨rfl, firstMissing_of_generate hg⟩
  | refused hg hc =>
    cases he
    exact ⟨rfl, firstMissing_of_create hg hc⟩
  | taken => cases he

/-- An emission that succeeds has put the generated source into the store. -/
theorem EmitsTo.of_ok (h : i.EmitsTo settings version st r) (hg : r.1 = .ok g) :
    i.generate settings version = .ok g ∧ st.create (g.file i.host) = .ok r.2 := by
  cases h with
  | sourceless => cases hg
  | refused => cases hg
  | taken hgen hc =>
    cases hg
    exact ⟨hgen, hc⟩

/-- An emission succeeds exactly if there is a source and the store takes its name. -/
theorem EmitsTo.exists_ok_iff (h : i.EmitsTo settings version st r) :
    (∃ g, r.1 = .ok g) ↔
      i.HasSource settings ∧ st.Takes (i.host.injectorQualifiedName settings.classSuffix) := by
  constructor
  · rintro ⟨g, hg⟩
    obtain ⟨hgen, hc⟩ := h.of_ok hg
    have htakes := (st.exists_create_iff (g.file i.host)).mp ⟨r.2, hc⟩
    rw [Generated.file, qualifiedName_of_generate hgen] at htakes
    exact ⟨(i.exists_generate_iff settings version).mp ⟨g, hgen⟩, htakes⟩
  · intro hgiven
    cases hr : r.1 with
    | ok g => exact ⟨g, rfl⟩
    | error e => exact absurd hgiven (h.of_error hr).2.not_given

end

/-- An emission succeeds exactly if nothing is missing. Then the store has one source more, that of
the injector with its class as origin and the returned text, and is the same otherwise. If the
emission fails, the store is the same altogether, and the error is that of the first thing
missing. -/
theorem emit_all_or_nothing (i : Injector) (settings : Settings) (version : SourceVersion)
    (st : MemoryStore) :
    let name := i.host.injectorQualifiedName settings.classSuffix
    let run := i.emit settings version MemoryStore.store st
    ((∃ g, run.1 = .ok g) ↔
      i.conflicts = [] ∧ Java.IsIdentifier (i.host.injectorName settings.classSuffix) ∧
        Java.IsQualifiedName name ∧ name ∉ st.refused ∧ ¬ st.Holds name) ∧
    (∀ g, run.1 = .ok g →
      i.GeneratedFrom settings version g ∧ run.2.refused = st.refused ∧
        ∀ other, run.2.files.get? other =
          if other = name then some ⟨name, i.host, g.contents⟩ else st.files.get? other) ∧
    ∀ e, run.1 = .error e → run.2 = st ∧ i.FirstMissing settings st e := by
  intro name run
  have hend : i.EmitsTo settings version st run := i.emitsTo settings version st
  refine ⟨?_, ?_, fun e he => hend.of_error he⟩
  · rw [hend.exists_ok_iff, HasSource, MemoryStore.Takes, and_assoc]
  · intro g hg
    obtain ⟨hgen, hc⟩ := hend.of_ok hg
    have hfrom := generatedFrom_of_generate hgen
    rw [Generated.file, hfrom.qualifiedName] at hc
    exact ⟨hfrom, MemoryStore.refused_create hc, MemoryStore.get?_create hc⟩

/-- A field of a form. -/
def formField (name : String) : Declaration where
  kind := .field
  name
  type := "Label"
  owner := some (.ofName "app.Form")

/-- A bound field, and a handler of two views. -/
def formInjector : Injector :=
  let tap : Declaration :=
    { kind := .method, name := "tap", type := "void", params := [viewType]
      owner := some (.ofName "app.Form") }
  let i : Injector := { host := .ofName "app.Form" }
  (i.bind .field 1 (formField "title")).bindAll .handler [1, 2] tap

/-- The same, with a second field that claims the view of the first. -/
def contestedInjector : Injector :=
  formInjector.bind .field 1 (formField "label")

/-- The injector goes to a new store, once more to the store that it left, and to a store that
refuses its name. The contested one goes to the same store, and fails for its conflict first. -/
theorem emit_all_or_nothing_formInjector :
    let name := "app.Form$$ViewInjector"
    let emit (i : Injector) (st : MemoryStore) := i.emit {} {} MemoryStore.store st
    let st := (emit formInjector {}).2
    let refusing : MemoryStore := { refused := [name] }
    (∃ g, (emit formInjector {}).1 = .ok g ∧ g.owner = "app.Form" ∧ g.bindings = 3 ∧
      st.files.get? name = some ⟨name, .ofName "app.Form", g.contents⟩) ∧
    emit formInjector st = (.error (.store "app.Form" (.alreadyExists name)), st) ∧
    emit formInjector refusing = (.error (.store "app.Form" (.rejected name)), refusing) ∧
    emit contestedInjector refusing =
      (.error (.source "app.Form" (.conflicted "app.Form" 1)), refusing) := by
  intro name emit st refusing
  have hname : formInjector.host.injectorQualifiedName "$$ViewInjector" = name := by
    decide +kernel
  have hsource : formInjector.HasSource {} := ⟨by decide +kernel, by decide +kernel⟩
  have hlegal :
      Java.IsQualifiedName (formInjector.host.injectorQualifiedName "$$ViewInjector") := by
    decide +kernel
  have hfails (i : Injector) (st : MemoryStore) {e : EmissionError}
      (h : i.FirstMissing {} st e) : emit i st = (.error e, st) := by
    obtain ⟨hwhen, -, herror⟩ := i.emit_all_or_nothing {} {} st
    cases hanswer : (emit i st).1 with
    | ok g =>
      obtain ⟨hagreed, hid, htakes⟩ := hwhen.mp ⟨g, hanswer⟩
      exact absurd ⟨⟨hagreed, hid⟩, htakes⟩ h.not_given
    | error e' =>
      obtain ⟨hst, h'⟩ := herror e' hanswer
      exact Prod.ext (hanswer.trans (congrArg _ (h'.unique h))) hst
  obtain ⟨hwhen, hok, -⟩ := formInjector.emit_all_or_nothing {} {} {}
  obtain ⟨g, hg⟩ := hwhen.mpr ⟨hsource.1, hsource.2, hlegal, by decide +kernel, by decide +kernel⟩
  obtain ⟨hfrom, hrefused, hfiles⟩ := hok g hg
  have hfile : st.files.get? name = some ⟨name, .ofName "app.Form", g.contents⟩ := by
    rw [hfiles, ← hname]
    exact if_pos rfl
  have hheld : st.Holds name := by
    rw [MemoryStore.Holds, hfile]
    rfl
  have hallowed : name ∉ st.refused := by
    rw [hrefused]
    exact List.not_mem_nil
  rw [← hname] at hheld hallowed
  refine ⟨⟨g, hg, hfrom.owner, hfrom.bindings, hfile⟩, ?_, ?_, ?_⟩
  · exact hname ▸ hfails formInjector st (.taken hsource hlegal hallowed hheld)
  · exact hname ▸ hfails formInjector refusing (.refused hsource hlegal (by decide +kernel))
  · exact hfails contestedInjector refusing (.conflicted (by decide +kernel))

end Injector

end ViewBinding
