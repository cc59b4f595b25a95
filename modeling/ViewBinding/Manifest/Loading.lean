import ViewBinding.Files.System
import ViewBinding.Manifest.Format
import ViewBinding.Manifest.Validation

/-!
# Loading manifests and settings

A manifest file is read, decoded by the extension of its name and validated; a settings file
likewise, always as TOML. The first thing that goes wrong ends it.

* `Manifest.ofFile_eq_ok_iff`: a manifest is had from a text exactly if it decodes and is valid.
-/

namespace ViewBinding

/-- Why a manifest could not be loaded. -/
inductive ManifestError where
  | reading (path : Path) (reason : String)
  | unsupportedFormat (path : Path)
  | parsing (format : Format) (path : Path) (fault : ShapeError)
  | invalid (path : Path) (problems : Problems)
  deriving DecidableEq, Repr

/-- The name of a format. -/
def Format.display : Format → String
  | .json => "JSON"
  | .toml => "TOML"

/-- The wording of an error. -/
def ManifestError.message : ManifestError → String
  | reading path reason => s!"failed to read manifest '{path.text}': {reason}"
  | unsupportedFormat path =>
    s!"unsupported manifest format '{path.text}': expected .toml or .json"
  | parsing format path fault =>
    s!"failed to parse {format.display} manifest '{path.text}': {fault.message}"
  | invalid path problems => s!"invalid manifest '{path.text}': {problems.display}"

/-- Why settings could not be loaded. -/
inductive SettingsError where
  | reading (path : Path) (reason : String)
  | parsing (path : Path) (fault : ShapeError)
  | invalid (problems : Problems)
  deriving DecidableEq, Repr

/-- The wording of an error. -/
def SettingsError.message : SettingsError → String
  | reading path reason => s!"failed to read config '{path.text}': {reason}"
  | parsing path fault => s!"failed to parse config '{path.text}': {fault.message}"
  | invalid problems => Settings.invalidMessage problems

/-- The format of a file, by its extension. -/
def Format.ofPath? (path : Path) : Option Format :=
  match path.extension? with
  | some "toml" => some .toml
  | some "json" => some .json
  | _ => none

namespace Manifest

/-- The manifest of a text in a format. -/
def ofText (format : Format) (text : String) : Except ShapeError Manifest :=
  match format with
  | .json => ofJson text
  | .toml => ofToml text

/-- The valid manifest of the text of a file. -/
def ofFile (path : Path) (text : String) : Except ManifestError Manifest :=
  match Format.ofPath? path with
  | none => .error (.unsupportedFormat path)
  | some format =>
    match ofText format text with
    | .error fault => .error (.parsing format path fault)
    | .ok manifest =>
      match manifest.check with
      | .error problems => .error (.invalid path problems)
      | .ok () => .ok manifest

/-- Loads a manifest. -/
def load {m : Type → Type} [Monad m] (files : FileSystem m) (path : Path) :
    m (Except ManifestError Manifest) := do
  match ← files.readText path with
  | .error reason => return .error (.reading path reason)
  | .ok text => return ofFile path text

theorem ofFile_eq_ok_iff {path : Path} {text : String} {manifest : Manifest} :
    ofFile path text = .ok manifest ↔
      ∃ format, Format.ofPath? path = some format ∧ ofText format text = .ok manifest ∧
        manifest.check = .ok () := by
  unfold ofFile
  cases hf : Format.ofPath? path with
  | none => simp
  | some format =>
    cases ht : ofText format text with
    | error fault => simp [ht]
    | ok found =>
      have : found = manifest ∧ found.check = .ok () ↔
          found = manifest ∧ manifest.check = .ok () := by
        constructor <;> (rintro ⟨rfl, h⟩; exact ⟨rfl, h⟩)
      cases hc : found.check <;> simpa [ht, hc] using this

end Manifest

namespace Settings

/-- The valid settings of the text of a file. -/
def ofFile (path : Path) (text : String) : Except SettingsError Settings :=
  match ofToml text with
  | .error fault => .error (.parsing path fault)
  | .ok settings =>
    match settings.check with
    | .error problems => .error (.invalid problems)
    | .ok () => .ok settings

/-- Loads settings. -/
def load {m : Type → Type} [Monad m] (files : FileSystem m) (path : Path) :
    m (Except SettingsError Settings) := do
  match ← files.readText path with
  | .error reason => return .error (.reading path reason)
  | .ok text => return ofFile path text

/-- Loads settings from a file if there is one to load them from, or else takes the defaults. -/
def loadOrDefault {m : Type → Type} [Monad m] (files : FileSystem m) :
    Option Path → m (Except SettingsError Settings)
  | none => return .ok {}
  | some path => load files path

end Settings

end ViewBinding
