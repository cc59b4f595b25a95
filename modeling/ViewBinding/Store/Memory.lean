import ViewBinding.SortedMap
import ViewBinding.Store.Basic

/-!
# Stores in memory

A store that keeps the sources by name and refuses the names it was told to refuse.

* `create_eq_ok_iff`: a source is taken exactly if its name is legal, not refused and new.
-/

namespace ViewBinding

/-- The sources taken so far, and the names to be refused. -/
structure MemoryStore where
  files : SortedMap String SourceFile := .empty
  refused : List String := []

namespace MemoryStore

/-- The store with one more source, or why it was not taken. -/
def create (s : MemoryStore) (file : SourceFile) : Except StoreError MemoryStore :=
  match Java.checkQualifiedName file.name with
  | .error fault => .error (.invalidName file.name fault)
  | .ok () =>
    if s.refused.contains file.name then .error (.rejected file.name)
    else if s.files.contains file.name then .error (.alreadyExists file.name)
    else .ok { s with files := s.files.insert file.name file }

/-- The store as an operation on its state; a refusal leaves the state alone. -/
def store : Store (StateM MemoryStore) where
  create file s :=
    match s.create file with
    | .ok s' => (.ok (), s')
    | .error e => (.error e, s)

theorem create_eq_ok_iff {s s' : MemoryStore} {file : SourceFile} :
    s.create file = .ok s' ↔
      Java.IsQualifiedName file.name ∧ file.name ∉ s.refused ∧ s.files.get? file.name = none ∧
        s' = { s with files := s.files.insert file.name file } := by
  rw [← Java.checkQualifiedName_eq_ok_iff, create]
  cases hn : Java.checkQualifiedName file.name with
  | error fault => simp
  | ok =>
    by_cases hr : file.name ∈ s.refused
    · simp [hr]
    · cases hf : s.files.get? file.name <;> simp [hr, hf, SortedMap.contains, eq_comm]

end MemoryStore

end ViewBinding
