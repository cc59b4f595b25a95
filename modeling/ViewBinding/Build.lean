import ViewBinding.Files.System
import ViewBinding.Manifest.Loading
import ViewBinding.Report
import ViewBinding.Store.Directory
import ViewBinding.Store.Memory

/-!
# Builds

A build runs a session over the declarations of a manifest: one round with all of them, then the
closing round. A real build writes below a directory; a dry one keeps its sources in memory.

* `checkManifest_written`: a dry build writes nothing.
-/

namespace ViewBinding

/-- Why a build came to nothing. -/
inductive BuildError where
  | manifest (cause : ManifestError)
  | settings (cause : SettingsError)
  | start (cause : StartError)
  | noOutputRoot
  | outputDirectory (path : Path) (reason : String)
  | reported (errors : Nat)
  deriving DecidableEq, Repr

/-- The wording of an error. -/
def BuildError.message : BuildError → String
  | manifest cause => cause.message
  | settings cause => cause.message
  | start cause => cause.message
  | noOutputRoot => "OUT_DIR is not set; build! must run from a build script"
  | outputDirectory path reason =>
    s!"failed to prepare output directory '{path.text}': {reason}"
  | reported errors => s!"code generation reported {errors} error(s)"

/-- A report with errors as a failure. -/
def Report.result (r : Report) : Except BuildError Report :=
  if r.isSuccess then .ok r else .error (.reported (r.count .error))

section

variable {m : Type → Type} [Monad m]

/-- Runs a session over the two rounds of a manifest. -/
def Manifest.run (manifest : Manifest) (settings : Settings) (store : Store m) :
    m (Except StartError Report) := do
  match Session.start { version := manifest.version } settings with
  | .error e => return .error e
  | .ok (session, _) =>
    let (session, first) ← session.runRound store (.ofDeclarations manifest.declarations)
    let (session, last) ← session.runRound store .closing
    return .ok { rounds := [first, last], log := session.log }

/-- A dry build of a manifest. -/
def checkManifest (manifest : Manifest) (settings : Settings) : Except BuildError Report :=
  (manifest.run settings MemoryStore.store {}).1.mapError .start

/-- A build of a manifest below a directory. -/
def generateManifest (files : FileSystem m) (manifest : Manifest) (out : Path)
    (settings : Settings) : m (Except BuildError Report) := do
  match ← files.makeDirs out with
  | .error reason => return .error (.outputDirectory out reason)
  | .ok () =>
    let (result, books) ← manifest.run settings (OutputDirectory.store files) { root := out }
    match result with
    | .error e => return .error (.start e)
    | .ok report => return .ok { report with written := books.written.map Path.text }

/-- A dry build of a manifest file. -/
def check (files : FileSystem m) (path : Path) (settings : Settings) :
    m (Except BuildError Report) := do
  match ← Manifest.load files path with
  | .error e => return .error (.manifest e)
  | .ok manifest => return checkManifest manifest settings

/-- A build of a manifest file. -/
def generate (files : FileSystem m) (path out : Path) (settings : Settings) :
    m (Except BuildError Report) := do
  match ← Manifest.load files path with
  | .error e => return .error (.manifest e)
  | .ok manifest => generateManifest files manifest out settings

theorem Manifest.run_eq_ok {manifest : Manifest} {settings : Settings} {s s' : MemoryStore}
    {report : Report} (h : manifest.run settings MemoryStore.store s = (.ok report, s')) :
    report.written = [] := by
  simp only [Manifest.run] at h
  cases hs : Session.start { version := manifest.version } settings with
  | error e =>
    rw [hs] at h
    cases h
  | ok started =>
    rw [hs] at h
    injection h with h₁
    injection h₁ with h₁
    rw [← h₁]

theorem checkManifest_written {manifest : Manifest} {settings : Settings} {report : Report}
    (h : checkManifest manifest settings = .ok report) : report.written = [] := by
  unfold checkManifest at h
  cases hr : manifest.run settings MemoryStore.store {} with
  | mk result s' =>
    rw [hr] at h
    cases result with
    | error e => cases h
    | ok r =>
      injection h with h
      exact h ▸ Manifest.run_eq_ok hr

end

end ViewBinding
