import Mathlib.Data.List.Nodup
import ViewBinding.Proofs.SortedMap
import ViewBinding.Store.Memory

/-!
# What a store in memory holds

A store that has taken some sources, one after the other, holds what it held before and these. Each
of them had a legal name that was new to the store, so none has replaced another.

* `MemoryStore.exists_create_iff`: which sources are taken.
* `MemoryStore.map_create_congr`: the answer to a source hangs on what the store knows of its name.
* `MemoryStore.Grown`: the store before and after it has taken some sources.
* `MemoryStore.grown_create`, `MemoryStore.Grown.trans`: one source, and some after others.
* `MemoryStore.Grown.eq_of_perm`: the order of the sources does not matter.
* `MemoryStore.Grown.holds_iff`: the names in the store after that.
-/

namespace ViewBinding.MemoryStore

variable {st st' st₁ : MemoryStore} {file : SourceFile} {files : List SourceFile}

/-- Some source of that name has been taken. -/
def Holds (st : MemoryStore) (name : String) : Prop :=
  (st.files.get? name).isSome = true

instance (st : MemoryStore) (name : String) : Decidable (st.Holds name) :=
  inferInstanceAs (Decidable (_ = _))

/-- Two stores know the same of a name: whether it is refused, and whether it has been taken. -/
structure AgreeOn (st st' : MemoryStore) (name : String) : Prop where
  refused : name ∈ st.refused ↔ name ∈ st'.refused
  holds : st.Holds name ↔ st'.Holds name

/-- Such stores take a source of that name both, or refuse it for the same reason. -/
theorem map_create_congr (h : st.AgreeOn st' file.name) :
    (st.create file).map (fun _ => ()) = (st'.create file).map fun _ => () := by
  have hcontains : st.files.contains file.name = st'.files.contains file.name :=
    Bool.eq_iff_iff.mpr h.holds
  unfold create
  cases Java.checkQualifiedName file.name with
  | error fault => rfl
  | ok =>
    by_cases hr : file.name ∈ st'.refused
    · simp [h.refused.mpr hr, hr]
    · cases hc : st'.files.contains file.name <;>
        simp [mt h.refused.mp hr, hr, hcontains, hc, Except.map]

/-- A source of that name is taken: the name is legal, not refused and new. -/
def Takes (st : MemoryStore) (name : String) : Prop :=
  Java.IsQualifiedName name ∧ name ∉ st.refused ∧ ¬ st.Holds name

theorem exists_create_iff (st : MemoryStore) (file : SourceFile) :
    (∃ st', st.create file = .ok st') ↔ st.Takes file.name := by
  have hnone : st.files.get? file.name = none ↔ ¬ st.Holds file.name := by simp [Holds]
  simp only [create_eq_ok_iff, exists_and_left, exists_eq, and_true, hnone, Takes]

theorem get?_create (h : st.create file = .ok st') (name : String) :
    st'.files.get? name = if name = file.name then some file else st.files.get? name := by
  obtain ⟨-, -, -, rfl⟩ := create_eq_ok_iff.mp h
  exact SortedMap.get?_insert

theorem refused_create (h : st.create file = .ok st') : st'.refused = st.refused := by
  obtain ⟨-, -, -, rfl⟩ := create_eq_ok_iff.mp h
  rfl

/-- A store before and after it has taken some sources. Their names are legal, not refused and new,
and no two of them are the same. -/
structure Grown (st : MemoryStore) (files : List SourceFile) (st' : MemoryStore) : Prop where
  refused : st'.refused = st.refused
  get? : ∀ name f, st'.files.get? name = some f ↔
    st.files.get? name = some f ∨ f ∈ files ∧ f.name = name
  legal : ∀ f ∈ files, Java.IsQualifiedName f.name
  allowed : ∀ f ∈ files, f.name ∉ st.refused
  absent : ∀ f ∈ files, st.files.get? f.name = none
  distinct : (files.map (·.name)).Nodup

theorem grown_refl (st : MemoryStore) : st.Grown [] st :=
  ⟨rfl, by simp, by simp, by simp, by simp, by simp⟩

/-- One source that is taken. -/
theorem grown_create (h : st.create file = .ok st') : st.Grown [file] st' := by
  obtain ⟨hlegal, hallowed, hnone, -⟩ := create_eq_ok_iff.mp h
  refine ⟨refused_create h, fun name f => ?_, by simpa using hlegal, by simpa using hallowed,
    by simpa using hnone, by simp⟩
  rw [get?_create h, List.mem_singleton]
  by_cases hname : name = file.name
  · rw [if_pos hname, hname, hnone, Option.some.injEq]
    constructor
    · rintro rfl
      exact .inr ⟨rfl, rfl⟩
    · rintro (hbefore | ⟨rfl, -⟩)
      · cases hbefore
      · rfl
  · rw [if_neg hname]
    refine ⟨.inl, fun hf => hf.resolve_right ?_⟩
    rintro ⟨rfl, heq⟩
    exact hname heq.symm

/-- Some sources, and then others. -/
theorem Grown.trans {files' : List SourceFile} (h : st.Grown files st₁)
    (h' : st₁.Grown files' st') : st.Grown (files ++ files') st' where
  refused := h'.refused.trans h.refused
  get? name f := by
    rw [h'.get?, h.get?, List.mem_append, or_and_right, or_assoc]
  legal := List.forall_mem_append.mpr ⟨h.legal, h'.legal⟩
  allowed := by
    have hallowed := h'.allowed
    rw [h.refused] at hallowed
    exact List.forall_mem_append.mpr ⟨h.allowed, hallowed⟩
  absent := by
    refine List.forall_mem_append.mpr ⟨h.absent, fun f hf => ?_⟩
    cases hget : st.files.get? f.name with
    | none => rfl
    | some g =>
      have hstill := (h.get? f.name g).mpr (.inl hget)
      rw [h'.absent f hf] at hstill
      cases hstill
  distinct := by
    rw [List.map_append, List.nodup_append]
    refine ⟨h.distinct, h'.distinct, ?_⟩
    intro name hname name' hname' heq
    obtain ⟨f, hf, rfl⟩ := List.mem_map.mp hname
    obtain ⟨g, hg, rfl⟩ := List.mem_map.mp hname'
    have htaken := (h.get? f.name f).mpr (.inr ⟨hf, rfl⟩)
    rw [heq, h'.absent g hg] at htaken
    cases htaken

/-- The order in which sources are taken leaves no trace. -/
theorem Grown.eq_of_perm {files' : List SourceFile} (h : st.Grown files st')
    (h' : st.Grown files' st₁) (hp : files.Perm files') : st' = st₁ := by
  have hfiles : st'.files = st₁.files := by
    apply SortedMap.ext_get?
    intro name
    apply Option.ext
    intro f
    rw [h.get?, h'.get?, hp.mem_iff]
  obtain ⟨found, refused⟩ := st'
  obtain ⟨found₁, refused₁⟩ := st₁
  cases hfiles
  cases h.refused.trans h'.refused.symm
  rfl

/-- A store that was empty holds nothing but the sources it has taken. -/
theorem Grown.keys_perm (h : st.Grown files st') (hempty : st.files = .empty) :
    st'.files.keys.Perm (files.map (·.name)) := by
  refine (List.perm_ext_iff_of_nodup (SortedMap.keys_nodup _) h.distinct).mpr fun name => ?_
  simp only [SortedMap.mem_keys_iff, h.get?, hempty, SortedMap.get?_empty, reduceCtorEq, false_or,
    List.mem_map]

/-- The names in the store afterwards. -/
theorem Grown.holds_iff (h : st.Grown files st') (name : String) :
    st'.Holds name ↔ st.Holds name ∨ ∃ f ∈ files, f.name = name := by
  simp only [Holds, Option.isSome_iff_exists, h.get?, exists_or]

/-- Sources of other names leave what the store knows of a name. -/
theorem Grown.agreeOn (h : st.Grown files st') {name : String} (hne : ∀ f ∈ files, f.name ≠ name) :
    st.AgreeOn st' name where
  refused := by rw [h.refused]
  holds := by
    rw [h.holds_iff, or_iff_left]
    rintro ⟨f, hf, heq⟩
    exact hne f hf heq

/-- Stores that know the same of a name still do when both have taken the same sources. -/
theorem AgreeOn.grown {name : String} (h : st.AgreeOn st' name) {t t' : MemoryStore}
    (ht : st.Grown files t) (ht' : st'.Grown files t') : t.AgreeOn t' name where
  refused := by rw [ht.refused, ht'.refused, h.refused]
  holds := by rw [ht.holds_iff, ht'.holds_iff, h.holds]

theorem AgreeOn.symm {name : String} (h : st.AgreeOn st' name) : st'.AgreeOn st name :=
  ⟨h.refused.symm, h.holds.symm⟩

theorem AgreeOn.trans {name : String} (h : st.AgreeOn st₁ name) (h' : st₁.AgreeOn st' name) :
    st.AgreeOn st' name :=
  ⟨h.refused.trans h'.refused, h.holds.trans h'.holds⟩

end ViewBinding.MemoryStore
