import ViewBinding.BuildScript
import ViewBinding.CommandLine.Basic
import ViewBinding.Proofs.Manifest.Success

/-!
# What the program answers

The program, its dry run and a build script load their settings and their manifest in the same way
and run the same build. The files are given by any functions on any states, so nothing is assumed of
what they hold or of what is written where.

* `Prepared`: all that has to be loaded and made for a run is.
* `drive`: the run of a request, before its report is shown.
* `answered_run`: the exit code, the output and the agreement with a build script.
-/

namespace ViewBinding

variable {σ : Type} (files : FileSystem (StateM σ))

/-! ## What has to be there -/

/-- The settings are the defaults, or those of a file that can be read, decodes and is valid. -/
def SettingsLoaded (path : Option Path) (w : σ) (settings : Settings) (w' : σ) : Prop :=
  match path with
  | none => settings = {} ∧ w' = w
  | some path => ∃ text, files.readText path w = (.ok text, w') ∧
      Settings.ofToml text = .ok settings ∧ settings.check = .ok ()

/-- The manifest is that of a file that can be read, decodes by its extension and is valid. -/
def ManifestLoaded (path : Path) (w : σ) (manifest : Manifest) (w' : σ) : Prop :=
  ∃ text, files.readText path w = (.ok text, w') ∧
    ∃ format, Format.ofPath? path = some format ∧ Manifest.ofText format text = .ok manifest ∧
      manifest.check = .ok ()

/-- The output directory of a build can be made. -/
def OutputMade (command : CommandLine.Command) (w : σ) : Prop :=
  ∀ out, command = .generate out → ∃ w', files.makeDirs out w = (.ok (), w')

variable {files}

theorem Settings.ofFile_eq_ok_iff {path : Path} {text : String} {settings : Settings} :
    ofFile path text = .ok settings ↔ ofToml text = .ok settings ∧ settings.check = .ok () := by
  unfold ofFile
  cases hread : ofToml text with
  | error fault => simp
  | ok found =>
    cases hcheck : found.check with
    | error problems =>
      simp only [hcheck, reduceCtorEq, Except.ok.injEq, false_iff, not_and]
      rintro rfl h
      rw [hcheck] at h
      cases h
    | ok =>
      simp only [hcheck, Except.ok.injEq]
      constructor
      · rintro rfl
        exact ⟨rfl, hcheck⟩
      · exact fun h => h.1

/-- A value is read from a file if the file can be read and its text has the value. -/
theorem readText_bind_eq_ok {ε α : Type} {path : Path} {fault : String → ε}
    {parse : String → Except ε α} {w w' : σ} {a : α} :
    (files.readText path >>= fun read => match read with
      | .error reason => pure (.error (fault reason))
      | .ok text => pure (parse text)) w = (.ok a, w') ↔
      ∃ text, files.readText path w = (.ok text, w') ∧ parse text = .ok a := by
  rw [bind_state]
  cases files.readText path w with
  | mk read w'' =>
  cases read with
  | error reason =>
    show (Except.error (fault reason), w'') = _ ↔ _
    constructor
    · intro h
      cases h
    · rintro ⟨text, h, -⟩
      cases h
  | ok text =>
    show (parse text, w'') = _ ↔ _
    rw [Prod.mk.injEq]
    constructor
    · rintro ⟨h, rfl⟩
      exact ⟨text, rfl, h⟩
    · rintro ⟨text', heq, h⟩
      cases heq
      exact ⟨h, rfl⟩

theorem Settings.loadOrDefault_eq_ok {path : Option Path} {w w' : σ} {settings : Settings} :
    loadOrDefault files path w = (.ok settings, w') ↔ SettingsLoaded files path w settings w' := by
  cases path with
  | none =>
    show (Except.ok {}, w) = (Except.ok settings, w') ↔ settings = {} ∧ w' = w
    rw [Prod.mk.injEq, Except.ok.injEq, eq_comm, eq_comm (a := w)]
  | some path =>
    refine readText_bind_eq_ok.trans ?_
    simp only [ofFile_eq_ok_iff]
    rfl

theorem SettingsLoaded.check {path : Option Path} {w w' : σ} {settings : Settings}
    (h : SettingsLoaded files path w settings w') : settings.check = .ok () := by
  cases path with
  | none =>
    obtain ⟨rfl, -⟩ := h
    exact Settings.check_default
  | some path =>
    obtain ⟨-, -, -, hcheck⟩ := h
    exact hcheck

theorem Manifest.load_eq_ok {path : Path} {w w' : σ} {manifest : Manifest} :
    load files path w = (.ok manifest, w') ↔ ManifestLoaded files path w manifest w' := by
  refine readText_bind_eq_ok.trans ?_
  simp only [ofFile_eq_ok_iff]
  rfl

namespace CommandLine

/-! ## The run of a request -/

/-- The run of a request, before its report is shown. -/
def drive {m : Type → Type} [Monad m] (files : FileSystem m) (request : Request) :
    m (Except BuildError Report) := do
  match ← Settings.loadOrDefault files request.settings with
  | .error e => return .error (.settings e)
  | .ok settings => perform files request settings

section

variable {m : Type → Type} [Monad m] [LawfulMonad m] (files : FileSystem m)

theorem answer_eq (request : Request) :
    answer files request = respond request.format <$> drive files request := by
  rw [answer, drive, map_bind]
  refine bind_congr fun loaded => ?_
  cases loaded with
  | error e => exact (map_pure (respond request.format) _).symm
  | ok settings => exact (map_eq_pure_bind (respond request.format) _).symm

/-- A build script drives the request to generate below its directory. -/
theorem buildScript_run_eq (request : Request) {directory : String}
    (h : request.command = .generate (Path.push ⟨directory⟩ "viewinject")) :
    BuildScript.run files request.manifest request.settings (some directory) =
      (·.bind Report.result) <$> drive files request := by
  rw [BuildScript.run, drive, map_bind]
  refine bind_congr fun loaded => ?_
  cases loaded with
  | error e =>
    rw [map_pure]
    rfl
  | ok settings =>
    simp only [BuildScript.outputRoot, perform, h, map_eq_pure_bind]
    refine bind_congr fun result => ?_
    cases result <;> rfl

end

/-- All that a request needs is there: its settings, its manifest and its output directory. -/
def Prepared (files : FileSystem (StateM σ)) (request : Request) (w : σ) : Prop :=
  ∃ settings w₁, SettingsLoaded files request.settings w settings w₁ ∧
    ∃ manifest w₂, ManifestLoaded files request.manifest w₁ manifest w₂ ∧
      OutputMade files request.command w₂

/-- A report tells how its run went and what it wrote. -/
structure Tells (command : Command) (report : Report) : Prop where
  success : report.isSuccess = true ↔ ∀ o ∈ report.rounds, o.AllWell
  written : match command with
    | .generate _ => report.written.length = (report.rounds.flatMap (·.generated)).length
    | .check => report.written = []

section

variable {files : FileSystem (StateM σ)} {request : Request} {settings : Settings}
  {manifest : Manifest} {report : Report} {w w₁ w₂ : σ}

/-- With all it needs, a command comes to a report. -/
theorem perform_of_loaded (hsettings : settings.check = .ok ())
    (hmanifest : ManifestLoaded files request.manifest w₁ manifest w₂)
    (hout : OutputMade files request.command w₂) :
    ∃ report w₃, perform files request settings w₁ = (.ok report, w₃) ∧
      Tells request.command report := by
  have hload := Manifest.load_eq_ok.mpr hmanifest
  cases hcommand : request.command with
  | check =>
    obtain ⟨report, hreport, hsuccess⟩ := checkManifest_isSuccess_iff manifest hsettings
    refine ⟨report, w₂, ?_, hsuccess, checkManifest_written hreport⟩
    rw [perform, hcommand, ← hreport]
    simp only [check, bind_state, hload]
    rfl
  | generate out =>
    obtain ⟨w₃, hdirs⟩ := hout out hcommand
    obtain ⟨report, w₄, hrun, hsuccess, hwritten⟩ :=
      generateManifest_isSuccess_iff manifest hsettings hdirs
    refine ⟨report, w₄, ?_, hsuccess, hwritten⟩
    rw [perform, hcommand]
    simp only [generate, bind_state, hload]
    exact hrun

/-- Without one of these it comes to an error. -/
theorem loaded_of_perform (h : (perform files request settings w₁).1 = .ok report) :
    ∃ manifest w₂, ManifestLoaded files request.manifest w₁ manifest w₂ ∧
      OutputMade files request.command w₂ := by
  cases hload : Manifest.load files request.manifest w₁ with
  | mk loaded w₂ =>
  cases loaded with
  | error e =>
    cases hcommand : request.command with
    | check =>
      simp only [perform, hcommand, check, bind_state, hload] at h
      cases h
    | generate out =>
      simp only [perform, hcommand, generate, bind_state, hload] at h
      cases h
  | ok manifest =>
    refine ⟨manifest, w₂, Manifest.load_eq_ok.mp hload, fun out hcommand => ?_⟩
    simp only [perform, hcommand, generate, bind_state, hload] at h
    cases hdirs : files.makeDirs out w₂ with
    | mk made w₃ =>
    cases made with
    | ok => exact ⟨w₃, rfl⟩
    | error reason =>
      rw [generateManifest_of_makeDirs_error manifest hdirs] at h
      cases h

/-- With its settings, a run is that of its command. -/
theorem drive_of_loaded (h : SettingsLoaded files request.settings w settings w₁) :
    drive files request w = perform files request settings w₁ := by
  rw [drive, bind_state, Settings.loadOrDefault_eq_ok.mpr h]

/-- A run comes to a report exactly if it has all it needs. -/
theorem drive_eq_ok_iff :
    (∃ report, (drive files request w).1 = .ok report) ↔ Prepared files request w := by
  constructor
  · rintro ⟨report, h⟩
    cases hload : Settings.loadOrDefault files request.settings w with
    | mk loaded w₁ =>
    cases loaded with
    | error e =>
      rw [drive, bind_state, hload] at h
      cases h
    | ok settings =>
      have hsettings := Settings.loadOrDefault_eq_ok.mp hload
      rw [drive_of_loaded hsettings] at h
      exact ⟨settings, w₁, hsettings, loaded_of_perform h⟩
  · rintro ⟨settings, w₁, hsettings, manifest, w₂, hmanifest, hout⟩
    obtain ⟨report, w₃, hrun, -⟩ := perform_of_loaded hsettings.check hmanifest hout
    exact ⟨report, by rw [drive_of_loaded hsettings, hrun]⟩

/-- The report tells how it went. -/
theorem tells_of_drive (h : (drive files request w).1 = .ok report) :
    Tells request.command report := by
  obtain ⟨settings, w₁, hsettings, manifest, w₂, hmanifest, hout⟩ := drive_eq_ok_iff.mp ⟨report, h⟩
  obtain ⟨report', w₃, hrun, htells⟩ := perform_of_loaded hsettings.check hmanifest hout
  rw [drive_of_loaded hsettings, hrun] at h
  cases h
  exact htells

end

/-! ## Answers -/

/-- The last line of a summary: how many injectors the rounds generated, and how many messages of
the two higher levels there are. -/
def countLine (report : Report) : String :=
  let generated := (report.rounds.flatMap (·.generated)).length
  let errors := report.log.countP (·.level = .error)
  let warnings := report.log.countP (·.level = .warning)
  s!"{generated} injector(s) generated, {errors} error(s), {warnings} warning(s)"

/-- The lines of a summary: the written files, the messages of the two higher levels as they came,
and the counts. -/
def summarized (report : Report) : List String :=
  report.written.map ("wrote " ++ ·) ++
    (report.log.filter fun d => d.level = .error ∨ d.level = .warning).map Diagnostic.display ++
    [countLine report]

theorem summaryLines_eq (report : Report) : report.summaryLines = summarized report := by
  have hlevel (d : Diagnostic) : d.level ≠ .note ↔ d.level = .error ∨ d.level = .warning := by
    cases d.level <;> decide
  simp only [Report.summaryLines, summarized, hlevel, countLine, Report.generated, Report.count,
    Diagnostic.count, Diagnostic.atLevel, List.countP_eq_length_filter, String.append_assoc]
  rfl

/-- How the program answers a request on files in a state, and what it leaves. -/
structure Answered (files : FileSystem (StateM σ)) (request : Request) (w : σ) (response : Response)
    (w' : σ) : Prop where
  /-- There is a report exactly if all that the request needs is there. -/
  reports : (∃ report, (drive files request w).1 = .ok report) ↔ Prepared files request w
  /-- The exit code is 0 exactly if, besides, all went well in the rounds of the report. -/
  exit : response.exitCode = 0 ↔ Prepared files request w ∧
    ∀ report, (drive files request w).1 = .ok report → ∀ o ∈ report.rounds, o.AllWell
  /-- Without a report nothing is printed. -/
  silent : ¬ Prepared files request w → response.output = ""
  /-- Otherwise the summary is printed, in the text format. -/
  shown : ∀ report, (drive files request w).1 = .ok report → request.format = .text →
    response.output = String.join ((summarized report).map (· ++ "\n"))
  /-- A file is written for each generated injector, and none by a check. -/
  written : ∀ report, (drive files request w).1 = .ok report → match request.command with
    | .generate _ => report.written.length = (report.rounds.flatMap (·.generated)).length
    | .check => report.written = []
  /-- A build script for the same directory succeeds exactly if the exit code is 0, and leaves the
  same files. -/
  script : ∀ directory, request.command = .generate (Path.push ⟨directory⟩ "viewinject") →
    let script := BuildScript.run files request.manifest request.settings (some directory) w
    ((∃ report, script.1 = .ok report) ↔ response.exitCode = 0) ∧ script.2 = w'

variable {files : FileSystem (StateM σ)} {request : Request} {w : σ}

theorem respond_exitCode_iff {format : SummaryFormat} {result : Except BuildError Report} :
    (respond format result).exitCode = 0 ↔ ∃ report, result = .ok report ∧ report.isSuccess := by
  cases result with
  | error e =>
    constructor
    · intro h
      cases h
    · rintro ⟨report, h, -⟩
      cases h
  | ok report => simp [respond_exitCode]

theorem bind_result_eq_ok_iff {result : Except BuildError Report} :
    (∃ report, result.bind Report.result = .ok report) ↔
      ∃ report, result = .ok report ∧ report.isSuccess := by
  cases result with
  | error e =>
    constructor
    · rintro ⟨report, h⟩
      cases h
    · rintro ⟨report, h, -⟩
      cases h
  | ok report =>
    by_cases h : report.isSuccess <;> simp [Except.bind, Report.result, h]

/-- Whatever the files hold, the program answers each request it reads. -/
theorem answered_run {args : List String} {settingsVariable : Option String}
    (h : readArguments args settingsVariable = .ok request)
    (files : FileSystem (StateM σ)) (w : σ) :
    let r := run files args settingsVariable w
    Answered files request w r.1 r.2 := by
  intro r
  cases hdrive : drive files request w with
  | mk result w' =>
  -- All the program does to the files is `drive`; what follows is read off its result.
  have hr : r = (respond request.format result, w') := by
    show run files args settingsVariable w = _
    rw [run, h]
    show answer files request w = _
    rw [answer_eq]
    show (respond request.format (drive files request w).1, (drive files request w).2) = _
    rw [hdrive]
  have htells (report : Report) (hreport : result = .ok report) : Tells request.command report :=
    tells_of_drive (by rw [hdrive, hreport])
  rw [hr]
  refine ⟨drive_eq_ok_iff, ?exit, ?silent, ?shown, ?written, ?script⟩
  case exit =>
    rw [respond_exitCode_iff, ← drive_eq_ok_iff, hdrive]
    constructor
    · rintro ⟨report, rfl, hsuccess⟩
      refine ⟨⟨report, rfl⟩, ?_⟩
      rintro _ ⟨⟩
      exact (htells report rfl).success.mp hsuccess
    · rintro ⟨⟨report, rfl⟩, hwell⟩
      exact ⟨report, rfl, (htells report rfl).success.mpr (hwell report rfl)⟩
  case silent =>
    intro hnot
    cases result with
    | error e => rfl
    | ok report => exact absurd (drive_eq_ok_iff.mp ⟨report, by rw [hdrive]⟩) hnot
  case shown =>
    rw [hdrive]
    rintro report rfl hformat
    simp only [respond, hformat, display, Report.summary, summaryLines_eq]
  case written =>
    rw [hdrive]
    exact fun report hreport => (htells report hreport).written
  case script =>
    intro directory hcommand
    have hscript : BuildScript.run files request.manifest request.settings (some directory) w =
        (result.bind Report.result, w') := by
      rw [buildScript_run_eq files request hcommand]
      show ((drive files request w).1.bind Report.result, (drive files request w).2) = _
      rw [hdrive]
    rw [hscript, respond_exitCode_iff]
    exact ⟨bind_result_eq_ok_iff, rfl⟩

/-- A class with a field that can be bound and one that cannot. -/
def mixedText : String :=
  "[[class]]
name = \"Main\"
[[class.member]]
kind = \"field\"
name = \"title\"
type = \"Label\"
bind_view = 1
[[class.member]]
kind = \"field\"
name = \"note\"
type = \"Label\"
modifiers = [\"private\"]
bind_view = 2
"

/-- Arguments to build it where a build script for `target` would. -/
def mixedArgs : List String :=
  ["generate", "-m", "app.toml", "-o", "target/viewinject"]

/-- What they ask for. -/
def mixedRequest : Request where
  command := .generate (Path.push ⟨"target"⟩ "viewinject")
  manifest := ⟨"app.toml"⟩
  settings := none
  format := .text

theorem answered_run_mixedText :
    readArguments mixedArgs none = .ok mixedRequest ∧
    (let r := run FileSystem.slate mixedArgs none [(⟨"app.toml"⟩, mixedText)]
     Answered FileSystem.slate mixedRequest [(⟨"app.toml"⟩, mixedText)] r.1 r.2) ∧
    (run FileSystem.slate mixedArgs none [(⟨"app.toml"⟩, mixedText)]).1 = {
      exitCode := 1
      output := "wrote target/viewinject/Main$$ViewInjector.java\n" ++
        "error: @BindView field `note` must not be private\n" ++
        "1 injector(s) generated, 1 error(s), 0 warning(s)\n" } := by
  have hread : readArguments mixedArgs none = .ok mixedRequest := by decide +kernel
  exact ⟨hread, answered_run hread FileSystem.slate _, by decide +kernel⟩

end CommandLine

end ViewBinding
