import ViewBinding.Proofs.Store.Directory
import ViewBinding.Store.Memory

/-!
# A store in memory and a store in a directory

As long as its files can be written, a store in a directory gives the same answers as one in memory.
Both are described by the sources they have taken, in order, so a program that only talks to its
store cannot tell them apart.

What is asked of the files is asked at the paths of a run alone, and of a disk that is ready for
them: nothing has to work anywhere else.

* `FileSystem.Serves`: files that can be written at some paths, each without touching the others.
* `FileSystem.Reliable`: files that can be written at any path, on any disk.
* `Runs`: two computations, one over each store, with one value and related states.
* `Mirrors`: the states of the two stores after they have taken the same sources.
* `runs_create`: one source handed to both.
-/

namespace ViewBinding

variable {σ : Type}

/-! ## Files -/

namespace FileSystem

variable {files : FileSystem (StateM σ)} {text? : σ → Path → Option String} {paths : List Path}
  {ready : σ → Prop}

/-- A text is written at its path once the directories above it are made, and of the texts at these
paths no other changes. -/
structure Writes (files : FileSystem (StateM σ)) (text? : σ → Path → Option String)
    (paths : List Path) (path : Path) (text : String) (disk disk' : σ) : Prop where
  made : ∃ above, OutputDirectory.prepare files path disk = (.ok (), above) ∧
    files.write path text above = (.ok (), disk')
  texts : ∀ q ∈ paths, text? disk' q = if q = path then some text else text? disk q

/-- Any text can be written at each of the paths, on a disk that is ready for it, and the disk is
ready again. -/
def Serves (files : FileSystem (StateM σ)) (text? : σ → Path → Option String) (paths : List Path)
    (ready : σ → Prop) : Prop :=
  ∀ path ∈ paths, ∀ text disk, ready disk →
    ∃ disk', files.Writes text? paths path text disk disk' ∧ ready disk'

/-- Files that can always be written, as seen through the texts at all paths: making directories
changes no text, and writing one changes no other. -/
structure Reliable (files : FileSystem (StateM σ)) (text? : σ → Path → Option String) : Prop where
  makeDirs : ∀ path disk, (files.makeDirs path disk).1 = .ok ()
  text?_makeDirs : ∀ path disk, text? (files.makeDirs path disk).2 = text? disk
  write : ∀ path text disk, (files.write path text disk).1 = .ok ()
  text?_write : ∀ path text disk q,
    text? (files.write path text disk).2 q = if q = path then some text else text? disk q

theorem Reliable.prepare (h : files.Reliable text?) (path : Path) (disk : σ) :
    ∃ above, OutputDirectory.prepare files path disk = (.ok (), above) ∧
      text? above = text? disk := by
  unfold OutputDirectory.prepare
  cases path.parent? with
  | none => exact ⟨disk, rfl, rfl⟩
  | some above =>
    have hmade := h.makeDirs above disk
    have htexts := h.text?_makeDirs above disk
    simp only [bind, StateT.bind]
    generalize files.makeDirs above disk = r at hmade htexts
    obtain ⟨answer, disk'⟩ := r
    subst hmade
    exact ⟨disk', rfl, htexts⟩

/-- Such files serve any paths, on any disk. -/
theorem Reliable.serves (h : files.Reliable text?) (paths : List Path) :
    files.Serves text? paths fun _ => True := by
  intro path _ text disk _
  obtain ⟨above, hmade, htexts⟩ := h.prepare path disk
  have hwritten : files.write path text above = (.ok (), (files.write path text above).2) :=
    Prod.ext (h.write path text above) rfl
  refine ⟨_, ⟨⟨above, hmade, hwritten⟩, fun q _ => ?_⟩, trivial⟩
  rw [h.text?_write, htexts]

end FileSystem

/-! ## Two runs of one program -/

section

variable {α β : Type}

/-- From related states, both computations return one value and come to states related for it. -/
def Runs (P : MemoryStore → OutputDirectory → σ → Prop) (x : StateM MemoryStore α)
    (y : StateT OutputDirectory (StateM σ) α) (Q : α → MemoryStore → OutputDirectory → σ → Prop) :
    Prop :=
  ∀ st d disk, P st d disk →
    (y d disk).1.1 = (x st).1 ∧ Q (x st).1 (x st).2 (y d disk).1.2 (y d disk).2

variable {P : MemoryStore → OutputDirectory → σ → Prop}
  {Q : α → MemoryStore → OutputDirectory → σ → Prop}
  {R : β → MemoryStore → OutputDirectory → σ → Prop}

theorem runs_pure {a : α} (h : ∀ st d disk, P st d disk → Q a st d disk) :
    Runs P (pure a) (pure a) Q :=
  fun st d disk hP => ⟨rfl, h st d disk hP⟩

theorem Runs.bind {x : StateM MemoryStore α} {y : StateT OutputDirectory (StateM σ) α}
    {f : α → StateM MemoryStore β} {g : α → StateT OutputDirectory (StateM σ) β}
    (h : Runs P x y Q) (hf : ∀ a, Runs (Q a) (f a) (g a) R) : Runs P (x >>= f) (y >>= g) R := by
  intro st d disk hP
  obtain ⟨hvalue, hQ⟩ := h st d disk hP
  have hrest := hf (x st).1 _ _ _ hQ
  rw [← hvalue] at hrest
  have hx : (x >>= f) st = f (y d disk).1.1 (x st).2 := by
    rw [hvalue]
    rfl
  rw [hx]
  exact hrest

end

/-! ## Two stores -/

/-- A source as a store sees it: its name and its text. -/
def SourceFile.entry (file : SourceFile) : String × String :=
  (file.name, file.contents)

/-- Both stores have taken these sources, in this order: in memory under their names, and in the
directory below `root` as the texts of their files, each at one of the paths. The disk is ready for
the next one. -/
structure Mirrors (root : Path) (text? : σ → Path → Option String) (paths : List Path)
    (ready : σ → Prop) (taken : List (String × String)) (st : MemoryStore) (d : OutputDirectory)
    (disk : σ) : Prop where
  refused : st.refused = []
  legal : ∀ e ∈ taken, Java.IsQualifiedName e.1
  held : ∀ name, st.files.contains name = true ↔ ∃ e ∈ taken, e.1 = name
  books : ∀ name, d.taken.contains name = true ↔ ∃ e ∈ taken, e.1 = name
  root : d.root = root
  known : ∀ e ∈ taken, d.pathFor e.1 ∈ paths
  written : d.written = taken.map fun e => d.pathFor e.1
  texts : ∀ e ∈ taken, text? disk (d.pathFor e.1) = some e.2
  ready : ready disk

namespace Mirrors

variable {root : Path} {text? : σ → Path → Option String} {paths : List Path} {ready : σ → Prop}
  {taken : List (String × String)} {st : MemoryStore} {d : OutputDirectory} {disk disk' : σ}

theorem empty (root : Path) (text? : σ → Path → Option String) (paths : List Path)
    (h : ready disk) : Mirrors root text? paths ready [] {} { root } disk := by
  refine ⟨rfl, ?_, ?_, ?_, rfl, ?_, rfl, ?_, h⟩ <;> simp [SortedMap.contains]

/-- The books place sources as they would below their root. -/
theorem pathFor_eq (h : Mirrors root text? paths ready taken st d disk) (name : String) :
    d.pathFor name = ({ root } : OutputDirectory).pathFor name := by
  simp only [OutputDirectory.pathFor, h.root]

/-- A map that holds the names of the sources goes on doing so with one more source. -/
theorem contains_insert_iff {ν : Type} {map : SortedMap String ν}
    (h : ∀ name, map.contains name = true ↔ ∃ e ∈ taken, e.1 = name) (file : SourceFile) (v : ν)
    (name : String) :
    (map.insert file.name v).contains name = true ↔ ∃ e ∈ taken ++ [file.entry], e.1 = name := by
  have hmap := h name
  simp only [SortedMap.contains] at hmap ⊢
  rw [SortedMap.get?_insert]
  by_cases hn : name = file.name
  · simp [hn, SourceFile.entry]
  · simp [hn, hmap, SourceFile.entry, or_and_right, exists_or, Ne.symm hn]

/-- One more source: the store in memory keeps it, and in the directory its file is written. -/
theorem concat (h : Mirrors root text? paths ready taken st d disk) {file : SourceFile}
    (hlegal : Java.IsQualifiedName file.name) (hnew : d.taken.contains file.name = false)
    (hpath : d.pathFor file.name ∈ paths)
    (hdisk : ∀ q ∈ paths, text? disk' q =
      if q = d.pathFor file.name then some file.contents else text? disk q)
    (hready : ready disk') :
    Mirrors root text? paths ready (taken ++ [file.entry])
      { st with files := st.files.insert file.name file } (d.record file.name) disk' where
  refused := h.refused
  legal := by
    rw [List.forall_mem_append, List.forall_mem_singleton]
    exact ⟨h.legal, hlegal⟩
  held := contains_insert_iff h.held file file
  books := contains_insert_iff h.books file ()
  root := h.root
  known := by
    rw [List.forall_mem_append, List.forall_mem_singleton]
    exact ⟨h.known, hpath⟩
  written := by
    show d.written ++ [d.pathFor file.name] = _
    rw [h.written, List.map_append]
    rfl
  texts := by
    show ∀ e ∈ taken ++ [file.entry], text? disk' (d.pathFor e.1) = some e.2
    rw [List.forall_mem_append, List.forall_mem_singleton]
    constructor
    · intro e he
      have hne : e.1 ≠ file.name := fun heq => by
        rw [(h.books file.name).mpr ⟨e, he, heq⟩] at hnew
        cases hnew
      have hother : d.pathFor e.1 ≠ d.pathFor file.name := fun heq =>
        hne ((d.pathFor_inj (h.legal e he) hlegal).mp heq)
      rw [hdisk _ (h.known e he), if_neg hother, h.texts e he]
    · exact (hdisk _ hpath).trans (if_pos rfl)
  ready := hready

end Mirrors

/-! ## One source -/

section

variable {files : FileSystem (StateM σ)} {text? : σ → Path → Option String} {paths : List Path}
  {ready : σ → Prop}

/-- A source with a new legal name is taken if its file can be written. -/
theorem OutputDirectory.create_of_writes {d : OutputDirectory} {file : SourceFile} {disk disk' : σ}
    (hlegal : Java.checkQualifiedName file.name = .ok ())
    (hnew : d.taken.contains file.name = false)
    (h : files.Writes text? paths (d.pathFor file.name) file.contents disk disk') :
    d.create files file disk = (.ok (d.record file.name), disk') := by
  obtain ⟨above, hmade, hwritten⟩ := h.made
  unfold create
  simp only [hlegal, hnew, Bool.false_eq_true, if_false, bind, StateT.bind, hmade, hwritten]
  rfl

/-- What the stores have taken after an answer. -/
def takenAfter (taken : List (String × String)) (file : SourceFile) :
    Except StoreError Unit → List (String × String)
  | .ok () => taken ++ [file.entry]
  | .error _ => taken

/-- One source handed to both stores: they answer alike, and have taken the same sources again. -/
theorem runs_create (h : files.Serves text? paths ready) (root : Path)
    (taken : List (String × String)) (file : SourceFile)
    (hpath : Java.IsQualifiedName file.name →
      ({ root } : OutputDirectory).pathFor file.name ∈ paths) :
    Runs (Mirrors root text? paths ready taken) (MemoryStore.store.create file)
      ((OutputDirectory.store files).create file)
      fun answer => Mirrors root text? paths ready (takenAfter taken file answer) := by
  intro st d disk hm
  -- Both stores know the names they have taken, so both find the same ones used.
  have hagree : d.taken.contains file.name = st.files.contains file.name :=
    Bool.eq_iff_iff.mpr ((hm.books _).trans (hm.held _).symm)
  cases hcheck : Java.checkQualifiedName file.name with
  | error fault =>
    simp only [MemoryStore.store, MemoryStore.create, OutputDirectory.store,
      OutputDirectory.create_of_fault hcheck, hcheck]
    exact ⟨rfl, hm⟩
  | ok =>
    cases hnew : d.taken.contains file.name with
    | true =>
      simp only [MemoryStore.store, MemoryStore.create, OutputDirectory.store,
        OutputDirectory.create_of_contains hcheck hnew, hcheck, hm.refused, ← hagree, hnew]
      exact ⟨rfl, hm⟩
    | false =>
      have hlegal := Java.checkQualifiedName_eq_ok_iff.mp hcheck
      have hst : st.create file = .ok { st with files := st.files.insert file.name file } := by
        simp [MemoryStore.create, hcheck, hm.refused, ← hagree, hnew]
      have hknown : d.pathFor file.name ∈ paths := by
        rw [hm.pathFor_eq]
        exact hpath hlegal
      -- This is the one case in which the files are asked to do something.
      obtain ⟨disk', hwrites, hready⟩ := h _ hknown file.contents disk hm.ready
      have hcreated := OutputDirectory.create_of_writes hcheck hnew hwrites
      simp only [MemoryStore.store, hst, OutputDirectory.store, bind, StateT.bind, hcreated]
      exact ⟨rfl, hm.concat hlegal hnew hknown hwrites.texts hready⟩

end

end ViewBinding
