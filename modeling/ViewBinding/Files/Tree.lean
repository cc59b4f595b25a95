import ViewBinding.Files.System
import ViewBinding.SortedMap

/-!
# Trees of files

The files and directories below a working directory, held in memory. Paths are followed step by
step: every step but the last has to lead to a directory, and two dots lead up from wherever the
steps before them arrived.

* `withDir_eq_ok_iff`: a directory is made exactly where there is nothing yet.
* `text_eq_ok_iff`: a text is read exactly from a file that holds it.
-/

namespace ViewBinding

/-- Why an operation on a tree failed. -/
inductive FileFault where
  | missing
  | notDirectory
  | isDirectory
  | alreadyThere
  | tooLong
  | unnameable
  | notText
  deriving DecidableEq, Repr

/-- The wording of a fault. -/
def FileFault.message : FileFault → String
  | missing => "no such file or directory"
  | notDirectory => "not a directory"
  | isDirectory => "is a directory"
  | alreadyThere => "file exists"
  | tooLong => "name too long"
  | unnameable => "name contains a null character"
  | notText => "not valid as text"

/-- What stands at a place. A file whose bytes are no text has none. -/
inductive FileEntry where
  | directory
  | file (text : Option String)
  deriving DecidableEq, Repr

/-- A place as the names that lead to it from the working directory, the last one first. -/
abbrev Trail := List (List Char)

namespace Trail

/-- The name of the directory above. -/
def dots : List Char := ['.', '.']

/-- One directory up. -/
def up : Trail → Trail
  | [] => [dots]
  | name :: rest => if name = dots then dots :: name :: rest else rest

/-- The place is the working directory or above it. -/
def isAbove (t : Trail) : Bool :=
  t.all (· = dots)

/-- The place as a text. -/
def key (t : Trail) : String :=
  String.ofList (Text.joinWith '/' t.reverse)

end Trail

/-- Entries by place. -/
structure FileTree where
  entries : SortedMap String FileEntry := .empty

namespace FileTree

/-- What stands at a place. -/
def entry? (t : FileTree) (place : Trail) : Option FileEntry :=
  if place.isAbove then some .directory else t.entries.get? place.key

/-- The tree with an entry put at a place. -/
def put (t : FileTree) (place : Trail) (e : FileEntry) : FileTree :=
  { t with entries := t.entries.insert place.key e }

/-- A name may have up to 255 bytes. -/
def isLongName (name : List Char) : Bool :=
  255 < (String.ofList name).utf8ByteSize

/-- One step on from a place. -/
def follow (t : FileTree) (place : Trail) (step : List Char) : Except FileFault Trail :=
  match t.entry? place with
  | none => .error .missing
  | some (.file _) => .error .notDirectory
  | some .directory =>
    if Path.isIdle step then .ok place
    else if step = Trail.dots then .ok place.up
    else if isLongName step then .error .tooLong
    else .ok (step :: place)

/-- The place that steps lead to, from the working directory. -/
def followAll (t : FileTree) (steps : List (List Char)) : Except FileFault Trail :=
  steps.foldlM t.follow []

/-- A path that cannot be followed at all. Nothing is known of places from the root. -/
def pathFault? (p : Path) : Option FileFault :=
  if p.text.isEmpty then some .missing
  else if p.text.toList.contains '\x00' then some .unnameable
  else if 4096 ≤ p.text.utf8ByteSize then some .tooLong
  else if Path.startsAtRoot p.text.toList then some .missing
  else none

/-- The place that a path leads to. -/
def resolve (t : FileTree) (p : Path) : Except FileFault Trail :=
  match pathFault? p with
  | some fault => .error fault
  | none => t.followAll (Text.segments '/' p.text.toList)

/-- The place of a directory to be made, whose path may end with slashes. -/
def resolveNew (t : FileTree) (p : Path) : Except FileFault Trail :=
  match pathFault? p with
  | some fault => .error fault
  | none =>
    t.followAll ((Text.segments '/' p.text.toList).reverse.dropWhile List.isEmpty).reverse

/-- There is a directory at the end of the path. -/
def isDirectory (t : FileTree) (p : Path) : Bool :=
  match t.resolve p with
  | .ok place => t.entry? place = some .directory
  | .error _ => false

/-- The tree with a new directory. -/
def withDir (t : FileTree) (p : Path) : Except FileFault FileTree :=
  match t.resolveNew p with
  | .error fault => .error fault
  | .ok place =>
    match t.entry? place with
    | some _ => .error .alreadyThere
    | none => .ok (t.put place .directory)

/-- The tree with a text in a file, new or old. -/
def withText (t : FileTree) (p : Path) (text : String) : Except FileFault FileTree :=
  match t.resolve p with
  | .error fault => .error fault
  | .ok place =>
    match t.entry? place with
    | some .directory => .error .isDirectory
    | _ => .ok (t.put place (.file (some text)))

/-- The text of a file. -/
def text (t : FileTree) (p : Path) : Except FileFault String :=
  match t.resolve p with
  | .error fault => .error fault
  | .ok place =>
    match t.entry? place with
    | none => .error .missing
    | some .directory => .error .isDirectory
    | some (.file none) => .error .notText
    | some (.file (some text)) => .ok text

theorem withDir_eq_ok_iff {t t' : FileTree} {p : Path} :
    t.withDir p = .ok t' ↔
      ∃ place, t.resolveNew p = .ok place ∧ t.entry? place = none ∧
        t' = t.put place .directory := by
  unfold withDir
  split
  · next h => simp [h]
  · next place h =>
    cases he : t.entry? place <;> simp [h, he, eq_comm]

theorem text_eq_ok_iff {t : FileTree} {p : Path} {text : String} :
    t.text p = .ok text ↔
      ∃ place, t.resolve p = .ok place ∧ t.entry? place = some (.file (some text)) := by
  unfold FileTree.text
  split
  · next h => simp [h]
  · next place h =>
    rw [h]
    split <;> simp_all

/-- Makes a directory and those above it that are missing. Directories that were made before a
failure stay; a directory that is there already is no failure. -/
def makeDirs (p : Path) (t : FileTree) : Except FileFault Unit × FileTree :=
  if p.text.isEmpty then (.ok (), t)
  else
    match t.withDir p with
    | .ok t' => (.ok (), t')
    -- Only where a step is missing can making the directories above help.
    | .error .missing =>
      match h : p.parent? with
      | none => (.error .missing, t)
      | some above =>
        have := Path.length_parent?_lt h
        match makeDirs above t with
        | (.error fault, t') => (.error fault, t')
        | (.ok (), t') =>
          match t'.withDir p with
          | .ok t'' => (.ok (), t'')
          -- Making those above may have made this one too: `a/..` is there once `a` is.
          | .error fault => (if t'.isDirectory p then .ok () else .error fault, t')
    | .error fault => (if t.isDirectory p then .ok () else .error fault, t)
termination_by p.text.toList.length

/-- The tree as a file system. -/
def system (wording : FileFault → String) : FileSystem (StateM FileTree) where
  readText p := fun t => ((t.text p).mapError wording, t)
  makeDirs p := fun t =>
    let (result, t') := t.makeDirs p
    (result.mapError wording, t')
  write p text := fun t =>
    match t.withText p text with
    | .ok t' => (.ok (), t')
    | .error fault => (.error (wording fault), t)

/-- What stands in a tree below the working directory and did not stand there before. -/
def changesSince (after before : FileTree) : List (String × FileEntry) :=
  after.entries.entries.filter fun e =>
    before.entries.get? e.1 ≠ some e.2 && !(Text.dropPrefix? ['.', '.', '/'] e.1.toList).isSome

end FileTree

end ViewBinding
