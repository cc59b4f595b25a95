import ViewBinding.Build
import ViewBinding.CommandLine.Arguments

/-!
# The command line

The program builds a manifest or checks it, shows the report and tells by its exit code whether all
went well.

* `respond_exitCode`: a report that is shown gives code 0 exactly if it has no errors.
-/

namespace ViewBinding.CommandLine

/-- What the program prints, what it complains of, and its exit code. -/
structure Response where
  exitCode : UInt8
  output : String := ""
  complaint : String := ""
  deriving DecidableEq, Repr

/-- The version of the program. -/
def programVersion : String := "0.4.0"

/-- How the program is used. -/
def usage : String :=
  "Generate view injectors from a symbol-table manifest\n\n" ++
  "Usage: viewinject [--format text|json] <COMMAND>\n\n" ++
  "Commands:\n" ++
  "  generate -m <MANIFEST> -o <OUT> [--config <CONFIG>]  write injector sources\n" ++
  "  check    -m <MANIFEST> [--config <CONFIG>]           report diagnostics only\n"

/-- The response where there is nothing to run. -/
def Halt.response : Halt → Response
  | .misuse => { exitCode := 2, complaint := usage }
  | .help => { exitCode := 0, output := usage }
  | .version => { exitCode := 0, output := s!"viewinject {programVersion}\n" }

/-- A report in a format. -/
def display (format : SummaryFormat) (report : Report) : String :=
  match format with
  | .text => report.summary
  | .json => report.toJson.renderSpread ++ "\n"

/-- The response to a finished run. -/
def respond (format : SummaryFormat) : Except BuildError Report → Response
  | .error e => { exitCode := 1, complaint := s!"{e.message}\n" }
  | .ok report =>
    { exitCode := if report.isSuccess then 0 else 1, output := display format report }

/-- Runs a build with settings. -/
def perform {m : Type → Type} [Monad m] (files : FileSystem m) (request : Request)
    (settings : Settings) : m (Except BuildError Report) :=
  match request.command with
  | .generate out => generate files request.manifest out settings
  | .check => check files request.manifest settings

/-- Answers a request: loads its settings and runs its command. -/
def answer {m : Type → Type} [Monad m] (files : FileSystem m) (request : Request) : m Response := do
  match ← Settings.loadOrDefault files request.settings with
  | .error e => return respond request.format (.error (.settings e))
  | .ok settings => return respond request.format (← perform files request settings)

/-- Runs the program. `settingsVariable` is the settings file that the environment names. -/
def run {m : Type → Type} [Monad m] (files : FileSystem m) (args : List String)
    (settingsVariable : Option String) : m Response :=
  match readArguments args settingsVariable with
  | .error halt => return halt.response
  | .ok request => answer files request

theorem respond_exitCode {format : SummaryFormat} {report : Report} :
    (respond format (.ok report)).exitCode = 0 ↔ report.isSuccess = true := by
  simp only [respond]
  split <;> simp_all

end ViewBinding.CommandLine
