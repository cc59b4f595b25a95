import Mathlib.Data.List.Nodup
import ViewBinding.Proofs.Session.Settling
import ViewBinding.Proofs.Store.Mirror

/-!
# The books of a directory

Files may fail at any time, and differently each time. Whatever they do, the books of a store name
exactly the files of the sources it has taken: a source that the store did not take leaves them as
they were, one that it took has a legal name that was new.

* `Triple`: what a stateful computation makes of the state, in any monad below.
* `Books`: the books after some sources have been taken.
* `triple_create`: the books after one more source.
-/

namespace ViewBinding

variable {m : Type → Type} [Monad m] [LawfulMonad m]

/-! ## Stateful computations -/

section

variable {σ α β : Type} {P : σ → Prop} {Q : α → σ → Prop} {R : β → σ → Prop}

/-- From every state with `P`, each value that is returned and the state after it are related by
`Q`. -/
def Triple (P : σ → Prop) (x : StateT σ m α) (Q : α → σ → Prop) : Prop :=
  ∀ d, P d → Returns (fun r => Q r.1 r.2) (x d)

theorem triple_pure {a : α} (h : ∀ d, P d → Q a d) : Triple P (pure a : StateT σ m α) Q :=
  fun d hP => returns_pure (h d hP)

theorem Triple.bind {x : StateT σ m α} {f : α → StateT σ m β} (hx : Triple P x Q)
    (hf : ∀ a, Triple (Q a) (f a) R) : Triple P (x >>= f) R :=
  fun d hP => (hx d hP).bind fun r hr => hf r.1 r.2 hr

end

/-! ## Books -/

/-- The books of a store below `root` that has taken these sources, in this order: their names are
legal, no two are the same, and the files written are theirs. -/
structure Books (root : Path) (taken : List (String × String)) (d : OutputDirectory) : Prop where
  root : d.root = root
  legal : ∀ e ∈ taken, Java.IsQualifiedName e.1
  distinct : (taken.map (·.1)).Nodup
  names : ∀ name, d.taken.contains name = true ↔ ∃ e ∈ taken, e.1 = name
  written : d.written = taken.map fun e => d.pathFor e.1

namespace Books

variable {root : Path} {taken : List (String × String)} {d : OutputDirectory}

theorem empty (root : Path) : Books root [] { root } := by
  refine ⟨rfl, ?_, ?_, ?_, rfl⟩ <;> simp [SortedMap.contains]

/-- One more source is recorded. -/
theorem concat (h : Books root taken d) {file : SourceFile}
    (hlegal : Java.IsQualifiedName file.name) (hnew : d.taken.contains file.name = false) :
    Books root (taken ++ [file.entry]) (d.record file.name) where
  root := h.root
  legal := by
    rw [List.forall_mem_append, List.forall_mem_singleton]
    exact ⟨h.legal, hlegal⟩
  distinct := by
    rw [List.map_append, List.map_singleton, List.nodup_append]
    refine ⟨h.distinct, List.nodup_singleton _, ?_⟩
    rintro name hname _ hfile rfl
    obtain ⟨e, he, rfl⟩ := List.mem_map.mp hname
    have hknown := (h.names file.name).mpr ⟨e, he, List.mem_singleton.mp hfile⟩
    rw [hnew] at hknown
    cases hknown
  names := Mirrors.contains_insert_iff h.names file ()
  written := by
    show d.written ++ [d.pathFor file.name] = _
    rw [h.written, List.map_append]
    rfl

end Books

/-! ## One source -/

/-- Books change only by recording a source with a legal name that is new to them. -/
theorem OutputDirectory.returns_create (files : FileSystem m) (d : OutputDirectory)
    (file : SourceFile) :
    Returns (fun r => ∀ d', r = .ok d' → Java.IsQualifiedName file.name ∧
      d.taken.contains file.name = false ∧ d' = d.record file.name) (d.create files file) := by
  have hany {α : Type} (x : m α) : Returns (fun _ => True) x := returns_of_forall fun _ => trivial
  unfold create
  cases hcheck : Java.checkQualifiedName file.name with
  | error fault => exact returns_pure fun d' hd' => by cases hd'
  | ok =>
    have hlegal := Java.checkQualifiedName_eq_ok_iff.mp hcheck
    cases hnew : d.taken.contains file.name with
    | true => exact returns_pure fun d' hd' => by cases hd'
    | false =>
      refine (hany _).bind fun prepared _ => ?_
      cases prepared with
      | error e => exact returns_pure fun d' hd' => by cases hd'
      | ok =>
        refine (hany _).bind fun answer _ => ?_
        cases answer with
        | error reason => exact returns_pure fun d' hd' => by cases hd'
        | ok =>
          refine returns_pure fun d' hd' => ?_
          cases hd'
          exact ⟨hlegal, rfl, rfl⟩

/-- Whatever the files do, the books agree with what the store has taken. -/
theorem triple_create (files : FileSystem m) (root : Path) (taken : List (String × String))
    (file : SourceFile) :
    Triple (Books root taken) ((OutputDirectory.store files).create file)
      fun answer => Books root (takenAfter taken file answer) := by
  intro d hd
  refine (d.returns_create files file).bind fun r hr => ?_
  cases r with
  | error e => exact returns_pure hd
  | ok d' =>
    obtain ⟨hlegal, hnew, rfl⟩ := hr d' rfl
    exact returns_pure (hd.concat hlegal hnew)

end ViewBinding
