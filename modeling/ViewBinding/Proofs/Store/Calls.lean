import ViewBinding.Proofs.Store.Books

/-!
# A store in a directory, call after call

One store is handed sources again and again: some under names that are not legal, some twice, and
some while the files fail. Its books list exactly the sources that it took. A name that is not legal
or that is in the books is answered without the files, any other by the files alone, so a source
that could not be written may be handed in again.

* `sourcesTaken`: the sources of the calls that succeeded.
* `triple_createAll`: the books after any calls.
* `OutputDirectory.store_of_fault`, `OutputDirectory.store_of_contains`,
  `OutputDirectory.store_of_new`: the three ways in which a call is answered.
* `OutputDirectory.calls_keep_books`: the books, and the next call.
-/

namespace ViewBinding

/-- The sources that were taken, in the order of their calls. -/
def sourcesTaken (calls : List SourceFile) (answers : List (Except StoreError Unit)) :
    List SourceFile :=
  ((calls.zip answers).filter (·.2.isOk)).map (·.1)

/-! ## The books after some calls -/

section

variable {m : Type → Type} [Monad m] [LawfulMonad m]

/-- Whatever the files do, the books list the sources that were taken. -/
theorem triple_createAll (files : FileSystem m) (root : Path) (taken : List (String × String))
    (calls : List SourceFile) :
    Triple (Books root taken) (calls.mapM (OutputDirectory.store files).create)
      fun answers => Books root (taken ++ (sourcesTaken calls answers).map SourceFile.entry) := by
  induction calls generalizing taken with
  | nil =>
    rw [List.mapM_nil]
    exact triple_pure fun d hd => by simpa [sourcesTaken] using hd
  | cons file calls ih =>
    rw [List.mapM_cons]
    refine (triple_create files root taken file).bind fun answer => ?_
    refine (ih (takenAfter taken file answer)).bind fun answers => ?_
    refine triple_pure fun d hd => ?_
    cases answer with
    | ok => simpa [sourcesTaken, takenAfter, Except.isOk, Except.toBool] using hd
    | error e => simpa [sourcesTaken, takenAfter, Except.isOk, Except.toBool] using hd

end

/-- The sources taken have different files. -/
theorem Books.nodup_written {root : Path} {taken : List (String × String)} {d : OutputDirectory}
    (h : Books root taken d) : d.written.Nodup := by
  rw [h.written]
  refine List.Nodup.map_on ?_ h.distinct.of_map
  intro e he e' he' heq
  have hname := (d.pathFor_inj (h.legal e he) (h.legal e' he')).mp heq
  exact List.inj_on_of_nodup_map h.distinct he he' hname

/-! ## One more call -/

namespace OutputDirectory

variable {σ : Type} {files : FileSystem (StateM σ)} {d : OutputDirectory} {file : SourceFile}
  {disk : σ}

/-- What the files answer to a source: they make its directory and then write it. -/
def fileAnswer (files : FileSystem (StateM σ)) (d : OutputDirectory) (file : SourceFile)
    (disk : σ) : Except StoreError Unit :=
  match prepare files (d.pathFor file.name) disk with
  | (.error e, _) => .error e
  | (.ok (), disk') =>
    match (files.write (d.pathFor file.name) file.contents disk').1 with
    | .error reason => .error (.writing (d.pathFor file.name).text reason)
    | .ok () => .ok ()

/-- The files can make the directory of a source and then write the source. -/
def CanWrite (files : FileSystem (StateM σ)) (d : OutputDirectory) (file : SourceFile) (disk : σ) :
    Prop :=
  ∃ disk', prepare files (d.pathFor file.name) disk = (.ok (), disk') ∧
    (files.write (d.pathFor file.name) file.contents disk').1 = .ok ()

/-- A name that is not legal is answered without the files. -/
theorem store_of_fault {fault : Java.NameFault}
    (h : Java.checkQualifiedName file.name = .error fault) :
    (store files).create file d = pure (.error (.invalidName file.name fault), d) := by
  simp only [store, create_of_fault h]
  rfl

/-- A name in the books is answered without the files. -/
theorem store_of_contains (hlegal : Java.checkQualifiedName file.name = .ok ())
    (h : d.taken.contains file.name = true) :
    (store files).create file d = pure (.error (.alreadyExists file.name), d) := by
  simp only [store, create_of_contains hlegal h]
  rfl

/-- Any other name is answered by the files. -/
theorem store_of_new (hlegal : Java.checkQualifiedName file.name = .ok ())
    (hnew : d.taken.contains file.name = false) :
    ((store files).create file d disk).1.1 = fileAnswer files d file disk := by
  unfold fileAnswer
  simp only [store, create, hlegal, hnew, Bool.false_eq_true, if_false, bind, StateT.bind]
  generalize prepare files (d.pathFor file.name) disk = ready
  obtain ⟨prepared, disk'⟩ := ready
  cases prepared with
  | error e => rfl
  | ok =>
    simp only [StateT.bind, bind]
    generalize files.write (d.pathFor file.name) file.contents disk' = written
    obtain ⟨answer, disk''⟩ := written
    cases answer with
    | error reason => rfl
    | ok => rfl

theorem fileAnswer_eq_ok_iff :
    fileAnswer files d file disk = .ok () ↔ CanWrite files d file disk := by
  constructor
  · intro h
    unfold fileAnswer at h
    split at h
    · cases h
    · next disk' hprepare =>
      split at h
      · cases h
      · next hwrite => exact ⟨disk', hprepare, hwrite⟩
  · rintro ⟨disk', hprepare, hwrite⟩
    unfold fileAnswer
    rw [hprepare]
    simp only [hwrite]

/-- Where no directory can be made, the error names the place. -/
theorem prepare_eq_error {path : Path} {e : StoreError} {disk' : σ}
    (h : prepare files path disk = (.error e, disk')) :
    ∃ place reason, e = .writing place reason := by
  unfold prepare at h
  cases habove : path.parent? with
  | none =>
    rw [habove] at h
    cases h
  | some above =>
    simp only [habove, bind, StateT.bind] at h
    generalize files.makeDirs above disk = r at h
    obtain ⟨answer, disk''⟩ := r
    cases answer with
    | ok => cases h
    | error reason =>
      cases h
      exact ⟨_, _, rfl⟩

/-- The files do not know which names are in the books. -/
theorem fileAnswer_ne_alreadyExists (name : String) :
    fileAnswer files d file disk ≠ .error (.alreadyExists name) := by
  intro h
  unfold fileAnswer at h
  split at h
  · next e disk' hprepare =>
    obtain ⟨place, reason, rfl⟩ := prepare_eq_error hprepare
    cases h
  · split at h <;> cases h

/-- A call that fails leaves the books alone. -/
theorem store_of_error {e : StoreError} (h : ((store files).create file d disk).1.1 = .error e) :
    ((store files).create file d disk).1.2 = d := by
  simp only [store, bind, StateT.bind] at h ⊢
  generalize d.create files file disk = r at h ⊢
  obtain ⟨answer, disk'⟩ := r
  cases answer with
  | ok d' => cases h
  | error e' => rfl

/-- The three ways in which a call is answered. -/
inductive Answers (files : FileSystem (StateM σ)) (d : OutputDirectory) (file : SourceFile)
    (disk : σ) : Except StoreError Unit → Prop
  | illegal {fault : Java.NameFault} (illegal : ¬ Java.IsQualifiedName file.name)
      (call : (store files).create file d = pure (.error (.invalidName file.name fault), d)) :
      Answers files d file disk (.error (.invalidName file.name fault))
  | known (legal : Java.IsQualifiedName file.name) (known : d.taken.contains file.name = true)
      (call : (store files).create file d = pure (.error (.alreadyExists file.name), d)) :
      Answers files d file disk (.error (.alreadyExists file.name))
  | new (legal : Java.IsQualifiedName file.name) (new : d.taken.contains file.name ≠ true) :
      Answers files d file disk (fileAnswer files d file disk)

theorem answers (files : FileSystem (StateM σ)) (d : OutputDirectory) (file : SourceFile)
    (disk : σ) : Answers files d file disk ((store files).create file d disk).1.1 := by
  cases hcheck : Java.checkQualifiedName file.name with
  | error fault =>
    have hillegal : ¬ Java.IsQualifiedName file.name := by
      rw [← Java.checkQualifiedName_eq_ok_iff, hcheck]
      exact nofun
    have hcall : (store files).create file d =
        pure (.error (.invalidName file.name fault), d) := store_of_fault hcheck
    rw [hcall]
    exact .illegal hillegal hcall
  | ok =>
    have hlegal := Java.checkQualifiedName_eq_ok_iff.mp hcheck
    cases hnew : d.taken.contains file.name with
    | true =>
      have hcall : (store files).create file d = pure (.error (.alreadyExists file.name), d) :=
        store_of_contains hcheck hnew
      rw [hcall]
      exact .known hlegal hnew hcall
    | false =>
      rw [store_of_new hcheck hnew]
      exact .new hlegal (by rw [hnew]; exact Bool.false_ne_true)

section

variable {answer : Except StoreError Unit}

theorem Answers.alreadyExists_iff (h : Answers files d file disk answer) (name : String) :
    answer = .error (.alreadyExists name) ↔
      name = file.name ∧ Java.IsQualifiedName file.name ∧ d.taken.contains file.name = true := by
  cases h with
  | illegal hillegal => simp [hillegal]
  | known hlegal hknown => simp [hlegal, hknown, eq_comm]
  | new hlegal hnew => simp [hnew, fileAnswer_ne_alreadyExists]

theorem Answers.ok_iff (h : Answers files d file disk answer) :
    answer = .ok () ↔
      Java.IsQualifiedName file.name ∧ ¬ d.taken.contains file.name = true ∧
        CanWrite files d file disk := by
  cases h with
  | illegal hillegal => simp [hillegal]
  | known hlegal hknown => simp [hknown]
  | new hlegal hnew => simp [hlegal, hnew, fileAnswer_eq_ok_iff]

/-- A name that is not legal or in the books is answered without the files. -/
theorem Answers.at_once (h : Answers files d file disk answer)
    (hname : ¬ Java.IsQualifiedName file.name ∨ d.taken.contains file.name = true) :
    ∃ e, (store files).create file d = pure (.error e, d) := by
  cases h with
  | illegal _ hcall => exact ⟨_, hcall⟩
  | known _ _ hcall => exact ⟨_, hcall⟩
  | new hlegal hnew => exact absurd hname (not_or.mpr ⟨not_not.mpr hlegal, hnew⟩)

end

/-- After any calls, whatever the files did, the books hold the names of the sources taken and, in
the order of the calls, their files, no two of which are the same. The next call leaves them alone
if it fails. It is told that its name was taken exactly if the name is legal and in the books, and
succeeds exactly if the name is legal and not in the books and the files can write the source. A
name that is not legal or in the books is answered at once, without the files. -/
theorem calls_keep_books (files : FileSystem (StateM σ)) (root : Path) (disk : σ)
    (calls : List SourceFile) (file : SourceFile) :
    let done := calls.mapM (store files).create { root } disk
    let accepted := (sourcesTaken calls done.1.1).map (·.name)
    let d := done.1.2
    let call := (store files).create file d
    let answer := (call done.2).1.1
    (∀ name, d.taken.contains name = true ↔ name ∈ accepted) ∧
    d.written = accepted.map ({ root } : OutputDirectory).pathFor ∧ d.written.Nodup ∧
    (∀ e, answer = .error e → (call done.2).1.2 = d) ∧
    (∀ name, answer = .error (.alreadyExists name) ↔
      name = file.name ∧ Java.IsQualifiedName file.name ∧ file.name ∈ accepted) ∧
    (answer = .ok () ↔
      Java.IsQualifiedName file.name ∧ file.name ∉ accepted ∧ CanWrite files d file done.2) ∧
    (¬ Java.IsQualifiedName file.name ∨ file.name ∈ accepted →
      ∃ e, call = pure (.error e, d)) := by
  intro done accepted d call answer
  -- The books are an invariant of the calls; only the last call is looked into.
  have hbooks : Books root ((sourcesTaken calls done.1.1).map SourceFile.entry) d :=
    (triple_createAll files root [] calls { root } (Books.empty root)).of_state disk
  have hnames (name : String) : d.taken.contains name = true ↔ name ∈ accepted := by
    rw [hbooks.names, List.mem_map]
    simp [SourceFile.entry]
  have hanswers : Answers files d file done.2 answer := answers files d file done.2
  refine ⟨hnames, ?_, hbooks.nodup_written, fun e he => store_of_error he, ?_⟩
  · have hpath : d.pathFor = ({ root } : OutputDirectory).pathFor := by
      funext name
      rw [pathFor, pathFor, hbooks.root]
    rw [hbooks.written, hpath, List.map_map, List.map_map]
    rfl
  · simp only [← hnames]
    exact ⟨hanswers.alreadyExists_iff, hanswers.ok_iff, hanswers.at_once⟩

/-- Files that do or do not what they are told as a script says, and do it after its end. -/
def scriptedFiles : FileSystem (StateM (List Bool)) where
  readText _ := fun script => (.error "unreadable", script)
  makeDirs _ := fun script => (if script.headD true then .ok () else .error "refused", script.tail)
  write _ _ := fun script => (if script.headD true then .ok () else .error "refused", script.tail)

/-- A source that cannot be written at first, and is handed in again. -/
theorem calls_keep_books_secondTry :
    let file : SourceFile := ⟨"app.Main$$ViewInjector", .ofName "app.Main", "class"⟩
    let stray : SourceFile := ⟨"app..Main", .ofName "app.Main", "class"⟩
    let done := [file, stray, file].mapM (store scriptedFiles).create { root := ⟨"out"⟩ }
      [true, false]
    done.1.2.written = [⟨"out/app/Main$$ViewInjector.java"⟩] ∧
      ((store scriptedFiles).create file done.1.2 done.2).1.1 =
        .error (.alreadyExists "app.Main$$ViewInjector") ∧
      ((store scriptedFiles).create file done.1.2 done.2).1.2 = done.1.2 ∧
      ∃ e, (store scriptedFiles).create stray done.1.2 = pure (.error e, done.1.2) := by
  intro file stray done
  have haccepted : (sourcesTaken [file, stray, file] done.1.1).map (·.name) =
      ["app.Main$$ViewInjector"] := by decide +kernel
  obtain ⟨-, hwritten, -, hkept, hexists, -⟩ :=
    calls_keep_books scriptedFiles ⟨"out"⟩ [true, false] [file, stray, file] file
  obtain ⟨-, -, -, -, -, -, hatOnce⟩ :=
    calls_keep_books scriptedFiles ⟨"out"⟩ [true, false] [file, stray, file] stray
  have hfile := (hexists file.name).mpr ⟨rfl, by decide +kernel, by
    rw [haccepted]
    exact List.mem_singleton_self _⟩
  refine ⟨?_, hfile, hkept _ hfile, hatOnce (.inl (by decide +kernel))⟩
  rw [hwritten, haccepted]
  decide +kernel

end OutputDirectory

end ViewBinding
