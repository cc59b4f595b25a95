import ViewBinding.Build

/-!
# Build scripts

A build script generates into a directory below the one that the build tool names, and announces
the files that it has to be run again for.
-/

namespace ViewBinding.BuildScript

/-- The lines that announce what the build depends on. -/
def announcements (manifest : Path) (settings : Option Path) : List String :=
  ("build.rs" :: manifest.text :: settings.toList.map Path.text).map fun file =>
    s!"cargo:rerun-if-changed={file}"

/-- Where the script generates, given the directory of the build tool. -/
def outputRoot (directory : Option String) : Except BuildError Path :=
  match directory with
  | none => .error .noOutputRoot
  | some directory => .ok (Path.push ⟨directory⟩ "viewinject")

/-- Runs the script after its announcements. Errors in the report are a failure. -/
def run {m : Type → Type} [Monad m] (files : FileSystem m) (manifest : Path)
    (settings : Option Path) (directory : Option String) : m (Except BuildError Report) := do
  match ← Settings.loadOrDefault files settings with
  | .error e => return .error (.settings e)
  | .ok settings =>
    match outputRoot directory with
    | .error e => return .error e
    | .ok out =>
      match ← generate files manifest out settings with
      | .error e => return .error e
      | .ok report => return report.result

end ViewBinding.BuildScript
