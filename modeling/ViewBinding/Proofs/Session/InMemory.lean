import ViewBinding.Proofs.Injector.Emission
import ViewBinding.Proofs.Session.Trace

/-!
# Sessions that keep their sources in memory

With a store in memory, settling an injector comes to one of four ends, and only one of them changes
the store: the source was generated and taken. So the store grows by the sources of the verdicts,
and the verdict on an injector hangs on those before it only as far as they took its name.

* `Session.SettlesTo`: the ends of settling one injector.
* `Session.settleAll_append`: injectors are settled one part after the other.
* `Session.grown_settleAll`: the store after any injectors have been settled.
* `Session.filter_settleAll_middle`: the verdict on one injector of a run.
* `Session.settle_congr_agreeOn`: stores that agree on the name of an injector settle it alike.
-/

namespace ViewBinding

/-- The sources that verdicts have handed to a store, in order. -/
def generatedFiles (verdicts : List (HostClass × Verdict)) : List SourceFile :=
  verdicts.filterMap fun v => v.2.generated?.map fun g => g.file v.1

namespace Session

/-- The ends of settling an injector with a store in memory. -/
inductive SettlesTo (s : Session) (i : Injector) (st : MemoryStore) :
    HostClass × Verdict → MemoryStore → Prop
  /-- It has conflicts. -/
  | skipped (h : i.conflicts ≠ []) : SettlesTo s i st (i.host, .skipped i.conflicts) st
  /-- It has no source. -/
  | sourceless {e : EmissionError} (h : i.conflicts = [])
      (hg : i.generate s.settings s.version = .error e) : SettlesTo s i st (i.host, .failed e) st
  /-- The store has not taken its source. -/
  | refused {g : Generated} {cause : StoreError} (h : i.conflicts = [])
      (hg : i.generate s.settings s.version = .ok g)
      (hc : st.create (g.file i.host) = .error cause) :
      SettlesTo s i st (i.host, .failed (.store i.host.name cause)) st
  /-- The store has taken its source. -/
  | taken {g : Generated} {st' : MemoryStore} (h : i.conflicts = [])
      (hg : i.generate s.settings s.version = .ok g)
      (hc : st.create (g.file i.host) = .ok st') : SettlesTo s i st (i.host, .generated g) st'

theorem settlesTo (s : Session) (i : Injector) (st : MemoryStore) :
    s.SettlesTo i st (s.settle MemoryStore.store i st).1 (s.settle MemoryStore.store i st).2 := by
  unfold settle
  cases hc : i.hasConflicts with
  | true =>
    refine .skipped fun hnil => ?_
    rw [Injector.hasConflicts_eq_false_iff.mpr hnil] at hc
    cases hc
  | false =>
    have hnil := Injector.hasConflicts_eq_false_iff.mp hc
    have hend := i.emitsTo s.settings s.version st
    simp only [Bool.false_eq_true, if_false, bind, StateT.bind]
    generalize i.emit s.settings s.version MemoryStore.store st = r at hend
    cases hend with
    | sourceless hg => exact .sourceless hnil hg
    | refused hg hs => exact .refused hnil hg hs
    | taken hg hs => exact .taken hnil hg hs

/-- One step of a run: the store grows by the source of the verdict, if there is one. -/
theorem SettlesTo.grown_cons {s : Session} {i : Injector} {st st₁ st' : MemoryStore}
    {v : HostClass × Verdict} {vs : List (HostClass × Verdict)} (h : s.SettlesTo i st v st₁)
    (hvs : st₁.Grown (generatedFiles vs) st') : st.Grown (generatedFiles (v :: vs)) st' := by
  cases h with
  | skipped h => exact hvs
  | sourceless h hg => exact hvs
  | refused h hg hc => exact hvs
  | taken h hg hc => exact (MemoryStore.grown_create hc).trans hvs

/-! ## Runs -/

section

variable {μ : Type → Type} [Monad μ] [LawfulMonad μ]

/-- Injectors are settled one part after the other. -/
theorem settleAll_append (s : Session) (store : Store μ) (is js : List Injector) :
    s.settleAll store (is ++ js) = do
      let vs ← s.settleAll store is
      let ws ← s.settleAll store js
      return vs ++ ws := by
  induction is with
  | nil => simp [settleAll]
  | cons i rest ih => simp [settleAll, ih]

end

/-- The store after a run holds what the verdicts have handed to it. -/
theorem grown_settleAll (s : Session) (is : List Injector) (st : MemoryStore) :
    st.Grown (generatedFiles (s.settleAll MemoryStore.store is st).1)
      (s.settleAll MemoryStore.store is st).2 := by
  induction is generalizing st with
  | nil => exact st.grown_refl
  | cons i rest ih => exact (s.settlesTo i st).grown_cons (ih _)

theorem filter_name_eq_nil {verdicts : List (HostClass × Verdict)} {owner : String}
    (h : owner ∉ verdicts.map (·.1.name)) : verdicts.filter (·.1.name = owner) = [] := by
  refine List.filter_eq_nil_iff.mpr fun v hv => ?_
  have hne : v.1.name ≠ owner := fun heq => h (heq ▸ List.mem_map_of_mem hv)
  simpa using hne

/-- A class is in a list of an outcome by its own verdicts. -/
theorem mem_names_filter_iff {verdicts : List (HostClass × Verdict)} {owner : String}
    {p : HostClass × Verdict → Bool} :
    owner ∈ (verdicts.filter p).map (·.1.name) ↔
      ((verdicts.filter (·.1.name = owner)).any p) = true := by
  simp only [List.mem_map, List.mem_filter, List.any_eq_true, decide_eq_true_eq]
  constructor
  · rintro ⟨v, ⟨hv, hp⟩, hname⟩
    exact ⟨v, ⟨hv, hname⟩, hp⟩
  · rintro ⟨v, ⟨hv, hname⟩, hp⟩
    exact ⟨v, ⟨hv, hp⟩, hname⟩

/-- Where injectors belong to different classes, the verdict on one of them is the one that it gets
from the store as it is after those before it. -/
theorem filter_settleAll_middle (s : Session) {before after : List Injector} {i : Injector}
    (hnd : ((before ++ i :: after).map (·.host.name)).Nodup) (st : MemoryStore) :
    (s.settleAll MemoryStore.store (before ++ i :: after) st).1.filter (·.1.name = i.host.name) =
      [(s.settle MemoryStore.store i (s.settleAll MemoryStore.store before st).2).1] := by
  rw [List.map_append, List.map_cons, List.nodup_middle, List.nodup_cons, List.mem_append,
    not_or] at hnd
  obtain ⟨⟨hbefore, hafter⟩, -⟩ := hnd
  let run := s.settleAll MemoryStore.store before st
  let last := s.settleAll MemoryStore.store after (s.settle MemoryStore.store i run.2).2
  have hsplit : (s.settleAll MemoryStore.store (before ++ i :: after) st).1 =
      run.1 ++ (s.settle MemoryStore.store i run.2).1 :: last.1 :=
    congrArg Prod.fst (congrFun (s.settleAll_append MemoryStore.store before (i :: after)) st)
  have hnames (is : List Injector) (st : MemoryStore) :
      (s.settleAll MemoryStore.store is st).1.map (·.1.name) = is.map (·.host.name) :=
    Outcome.names_eq ((s.returns_settleAll MemoryStore.store is).of_state st)
  have hrun : run.1.filter (·.1.name = i.host.name) = [] :=
    filter_name_eq_nil (by rwa [hnames])
  have hlast : last.1.filter (·.1.name = i.host.name) = [] :=
    filter_name_eq_nil (by rwa [hnames])
  have hhost : (s.settle MemoryStore.store i run.2).1.1.name = i.host.name :=
    congrArg HostClass.name ((s.returns_settle MemoryStore.store i).of_state run.2).1
  rw [hsplit, List.filter_append, List.filter_cons, hrun, hlast]
  simp [run, hhost]

/-- Stores that agree on the name of an injector settle it with one verdict. -/
theorem settle_congr_agreeOn {s s' : Session} (hs : s.settings = s'.settings)
    (hv : s.version = s'.version) {i : Injector} {st st' : MemoryStore}
    (h : st.AgreeOn st' (i.host.injectorQualifiedName s.settings.classSuffix)) :
    (s.settle MemoryStore.store i st).1 = (s'.settle MemoryStore.store i st').1 := by
  have hemit := Injector.emit_congr_agreeOn s.version h
  unfold settle
  rw [← hs, ← hv]
  cases i.hasConflicts with
  | true => rfl
  | false =>
    simp only [Bool.false_eq_true, if_false, bind, StateT.bind]
    rcases he : i.emit s.settings s.version MemoryStore.store st with ⟨answer, t⟩
    rcases he' : i.emit s.settings s.version MemoryStore.store st' with ⟨answer', t'⟩
    rw [he, he'] at hemit
    cases hemit
    cases answer <;> rfl

end Session

end ViewBinding
