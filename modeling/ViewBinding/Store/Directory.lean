import ViewBinding.Files.System
import ViewBinding.SortedMap
import ViewBinding.Store.Basic

/-!
# Stores in a directory

A store that writes each source below a root, in the directories of its package. It keeps books on
the names it took and the files it wrote; a source that could not be written may be tried again.

* `create_of_fault`: a name that is not legal touches no file.
* `create_of_contains`: nor does a name that was taken before.
-/

namespace ViewBinding

/-- The books of a store: its root, the names taken and the files written, in order. -/
structure OutputDirectory where
  root : Path
  taken : SortedSet String := .empty
  written : List Path := []

namespace OutputDirectory

/-- The package and the class of a qualified name. -/
def splitName (name : String) : List Char × List Char :=
  (Text.splitLast? '.' name.toList).getD ([], name.toList)

/-- The directories of the package of a name. -/
def packageSteps (name : String) : List String :=
  ((Text.segments '.' (splitName name).1).filter (!·.isEmpty)).map String.ofList

/-- The file of a name. -/
def fileName (name : String) : String :=
  String.ofList (splitName name).2 ++ ".java"

/-- Where the source of a name is written. -/
def pathFor (d : OutputDirectory) (name : String) : Path :=
  ((packageSteps name).foldl Path.push d.root).push (fileName name)

/-- The books after a source was written. -/
def record (d : OutputDirectory) (name : String) : OutputDirectory :=
  { d with taken := d.taken.insert name (), written := d.written ++ [d.pathFor name] }

section

variable {m : Type → Type} [Monad m]

/-- Makes the directory that a file is to be in. -/
def prepare (files : FileSystem m) (path : Path) : m (Except StoreError Unit) := do
  match path.parent? with
  | none => return .ok ()
  | some above =>
    match ← files.makeDirs above with
    | .ok () => return .ok ()
    | .error reason => return .error (.writing above.text reason)

/-- Writes a source, and returns the books after it. -/
def create (files : FileSystem m) (d : OutputDirectory) (file : SourceFile) :
    m (Except StoreError OutputDirectory) := do
  match Java.checkQualifiedName file.name with
  | .error fault => return .error (.invalidName file.name fault)
  | .ok () =>
    if d.taken.contains file.name then return .error (.alreadyExists file.name)
    else
      -- A failed write leaves no trace in the books, so the same name may be tried again.
      let path := d.pathFor file.name
      match ← prepare files path with
      | .error e => return .error e
      | .ok () =>
        match ← files.write path file.contents with
        | .error reason => return .error (.writing path.text reason)
        | .ok () => return .ok (d.record file.name)

/-- The store as an operation on its books; a failure leaves them alone. -/
def store (files : FileSystem m) : Store (StateT OutputDirectory m) where
  create file := fun d => do
    match ← d.create files file with
    | .ok d' => return (.ok (), d')
    | .error e => return (.error e, d)

theorem create_of_fault {files : FileSystem m} {d : OutputDirectory} {file : SourceFile}
    {fault : Java.NameFault} (h : Java.checkQualifiedName file.name = .error fault) :
    d.create files file = pure (.error (.invalidName file.name fault)) := by
  simp [create, h]

theorem create_of_contains {files : FileSystem m} {d : OutputDirectory} {file : SourceFile}
    (hn : Java.checkQualifiedName file.name = .ok ()) (ht : d.taken.contains file.name = true) :
    d.create files file = pure (.error (.alreadyExists file.name)) := by
  simp [create, hn, ht]

end

end OutputDirectory

end ViewBinding
