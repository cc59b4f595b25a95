import ViewBinding.Proofs.Session.InMemory

/-!
# When an injector is emitted

With a store in memory, an injector is emitted exactly if it has no conflicts, a legal simple name,
and a qualified name that the store takes. The store takes a legal name once, so of several
injectors with one name the first one gets it.

* `Session.isSome_generated?_settle_iff`, `Session.isFailed_settle_iff`: the verdict on an injector.
* `Session.holds_settleAll_iff`: the names that a run leaves in the store.
* `Session.exists_store_of_mem`: the verdict on an injector of a sorted run.
-/

namespace ViewBinding

open Text

namespace Session

variable {s : Session} {i : Injector} {st : MemoryStore}

/-- An injector is generated exactly if it has a source and the store takes it. -/
theorem isSome_generated?_settle_iff :
    (s.settle MemoryStore.store i st).1.2.generated?.isSome = true ↔
      i.HasSource s.settings ∧ st.Takes (i.host.injectorQualifiedName s.settings.classSuffix) := by
  have hend := s.settlesTo i st
  generalize s.settle MemoryStore.store i st = r at hend
  obtain ⟨v, st'⟩ := r
  rw [← i.exists_generate_iff s.settings s.version]
  cases hend with
  | skipped h =>
    simp only [Verdict.generated?_skipped, Option.isSome_none, Bool.false_eq_true, false_iff]
    rintro ⟨hsource, -⟩
    exact h ((i.exists_generate_iff _ _).mp hsource).1
  | sourceless h hg => simp [hg]
  | @refused g cause h hg hc =>
    simp only [Verdict.generated?_failed, Option.isSome_none, Bool.false_eq_true, false_iff]
    rintro ⟨-, htakes⟩
    rw [← Injector.qualifiedName_of_generate hg] at htakes
    obtain ⟨st₁, hst₁⟩ := (MemoryStore.exists_create_iff _ (g.file i.host)).mpr htakes
    cases hc.symm.trans hst₁
  | @taken g st' h hg hc =>
    have htakes := (MemoryStore.exists_create_iff _ _).mp ⟨_, hc⟩
    rw [Generated.file, Injector.qualifiedName_of_generate hg] at htakes
    simp [hg, htakes]

/-- It fails exactly if it has no conflicts and is not generated. -/
theorem isFailed_settle_iff :
    (s.settle MemoryStore.store i st).1.2.isFailed = true ↔ i.conflicts = [] ∧
      (s.settle MemoryStore.store i st).1.2.generated?.isSome = false := by
  have hend := s.settlesTo i st
  generalize s.settle MemoryStore.store i st = r at hend
  obtain ⟨v, st'⟩ := r
  cases hend with
  | skipped h => simp [h]
  | sourceless h hg => simp [h]
  | refused h hg hc => simp [h]
  | taken h hg hc => simp

section

variable {name : String} (hlegal : Java.IsQualifiedName name)

include hlegal

/-- One step: the name is in the store from then on if the injector has it. -/
theorem holds_settle_iff (hallowed : name ∉ st.refused) :
    (s.settle MemoryStore.store i st).2.Holds name ↔ st.Holds name ∨
      i.HasSource s.settings ∧ i.host.injectorQualifiedName s.settings.classSuffix = name := by
  have hend := s.settlesTo i st
  generalize s.settle MemoryStore.store i st = r at hend
  obtain ⟨v, st'⟩ := r
  rw [← i.exists_generate_iff s.settings s.version]
  cases hend with
  | skipped h =>
    refine (or_iff_left ?_).symm
    rintro ⟨hsource, -⟩
    exact h ((i.exists_generate_iff _ _).mp hsource).1
  | sourceless h hg => simp [hg]
  | @refused g cause h hg hc =>
    refine ⟨.inl, fun hor => hor.elim id ?_⟩
    rintro ⟨-, hname⟩
    by_contra hnew
    have htakes : st'.Takes g.qualifiedName := by
      rw [Injector.qualifiedName_of_generate hg, hname]
      exact ⟨hlegal, hallowed, hnew⟩
    obtain ⟨st₁, hst₁⟩ := (MemoryStore.exists_create_iff _ (g.file i.host)).mpr htakes
    cases hc.symm.trans hst₁
  | @taken g st' h hg hc =>
    have hname : (g.file i.host).name = i.host.injectorQualifiedName s.settings.classSuffix :=
      Injector.qualifiedName_of_generate hg
    rw [MemoryStore.Holds, MemoryStore.get?_create hc, hname, MemoryStore.Holds]
    by_cases heq : i.host.injectorQualifiedName s.settings.classSuffix = name
    · simp [heq, hg]
    · simp [heq, Ne.symm heq]

/-- The names of a run: a legal name that is not refused is in the store afterwards if it was before
or some injector with a source has it. -/
theorem holds_settleAll_iff (is : List Injector) (hallowed : name ∉ st.refused) :
    (s.settleAll MemoryStore.store is st).2.Holds name ↔ st.Holds name ∨ ∃ i ∈ is,
      i.HasSource s.settings ∧ i.host.injectorQualifiedName s.settings.classSuffix = name := by
  induction is generalizing st with
  | nil =>
    show st.Holds name ↔ _
    simp
  | cons i rest ih =>
    have hrefused : (s.settle MemoryStore.store i st).2.refused = st.refused :=
      (s.grown_settleAll [i] st).refused
    show (s.settleAll MemoryStore.store rest (s.settle MemoryStore.store i st).2).2.Holds name ↔ _
    rw [ih (by rwa [hrefused]), holds_settle_iff hlegal hallowed, List.exists_mem_cons_iff,
      or_assoc]

end

/-- In a run over injectors in the order of their classes, the verdict on an injector is the one
that it gets from a store which holds the names of the injectors before it. -/
theorem exists_store_of_mem {is : List Injector}
    (hsorted : (is.map (·.host.name)).Pairwise ByteLess) (hi : i ∈ is) (st : MemoryStore) :
    ∃ st' : MemoryStore, (s.settleAll MemoryStore.store is st).1.filter (·.1.name = i.host.name) =
        [(s.settle MemoryStore.store i st').1] ∧
      st'.refused = st.refused ∧
      ∀ name, Java.IsQualifiedName name → name ∉ st.refused → (st'.Holds name ↔ st.Holds name ∨
        ∃ j ∈ is, ByteLess j.host.name i.host.name ∧ j.HasSource s.settings ∧
          j.host.injectorQualifiedName s.settings.classSuffix = name) := by
  obtain ⟨before, after, rfl⟩ := List.append_of_mem hi
  have hnd : ((before ++ i :: after).map (·.host.name)).Nodup := by
    refine hsorted.imp fun {a b} hlt heq => ?_
    rw [heq] at hlt
    exact List.lt_irrefl _ hlt
  have hmem (j : Injector) (hj : j ∈ before ++ i :: after) :
      j ∈ before ↔ ByteLess j.host.name i.host.name := by
    rw [List.pairwise_map, List.pairwise_append, List.pairwise_cons] at hsorted
    obtain ⟨-, ⟨hafter, -⟩, hbefore⟩ := hsorted
    refine ⟨fun hb => hbefore j hb i List.mem_cons_self, fun hlt => ?_⟩
    rcases List.mem_append.mp hj with hb | hrest
    · exact hb
    · rcases List.mem_cons.mp hrest with rfl | ha
      · exact absurd hlt (List.lt_irrefl _)
      · exact absurd hlt (List.lt_asymm (hafter j ha))
  -- It is the store as the injectors before it have left it.
  refine ⟨(s.settleAll MemoryStore.store before st).2, s.filter_settleAll_middle hnd st,
    (s.grown_settleAll before st).refused, fun name hlegal hallowed => ?_⟩
  rw [holds_settleAll_iff hlegal before hallowed]
  refine or_congr_right (exists_congr fun j => ?_)
  constructor
  · rintro ⟨hj, hsource⟩
    have hall := List.mem_append_left (i :: after) hj
    exact ⟨hall, (hmem j hall).mp hj, hsource⟩
  · rintro ⟨hall, hlt, hsource⟩
    exact ⟨(hmem j hall).mpr hlt, hsource⟩

end Session

end ViewBinding
