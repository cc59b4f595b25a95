import ViewBinding.Declaration

/-!
# Diagnostics

Messages about a compilation, each with a level, the symbol it is about and its place.
-/

namespace ViewBinding

/-- How serious a message is. -/
inductive Level where
  | note
  | warning
  | error
  deriving DecidableEq, Repr

namespace Level

/-- All levels, the mildest first. -/
def all : List Level := [.note, .warning, .error]

/-- The level in a message and as a key. -/
def key : Level → String
  | .note => "note"
  | .warning => "warning"
  | .error => "error"

end Level

/-- One message. -/
structure Diagnostic where
  level : Level
  message : String
  subject : Option String := none
  location : Option Location := none
  deriving DecidableEq, Repr

namespace Diagnostic

/-- A message about a declaration, at its place. -/
def onDeclaration (level : Level) (message : String) (d : Declaration) : Diagnostic :=
  { level, message, subject := some d.symbolKey, location := d.place }

/-- A message about a class, in its file. -/
def onClass (level : Level) (message : String) (host : HostClass) : Diagnostic :=
  { level, message, subject := some host.name
    location := host.source.map fun file => { file := some file } }

/-- A message of level error. -/
def isError (d : Diagnostic) : Bool :=
  d.level = .error

/-- The message in one line, its place first. -/
def display (d : Diagnostic) : String :=
  let text := s!"{d.level.key}: {d.message}"
  match d.location with
  | some location => s!"{location.display}: {text}"
  | none => text

/-- The messages of a level. -/
def atLevel (log : List Diagnostic) (level : Level) : List Diagnostic :=
  log.filter (·.level = level)

/-- The number of messages of a level. -/
def count (log : List Diagnostic) (level : Level) : Nat :=
  (atLevel log level).length

end Diagnostic

end ViewBinding
