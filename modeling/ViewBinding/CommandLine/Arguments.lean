import ViewBinding.Files.Path

/-!
# Arguments of the command line

Arguments are read from left to right: switches of the program, the name of a command, and switches
of the command. A switch that takes a value has it in the next argument or in its own, and may be
given once.
-/

namespace ViewBinding.CommandLine

/-- What a switch sets. -/
inductive Setting where
  | manifest
  | out
  | settings
  | format
  deriving DecidableEq, Repr

/-- What a switch does. -/
inductive Switch where
  | takes (setting : Setting)
  | help
  | version
  deriving DecidableEq, Repr

/-- The commands. -/
inductive CommandName where
  | generate
  | check
  deriving DecidableEq, Repr

/-- Why there is nothing to run: the arguments are wrong, or they only ask about the program. -/
inductive Halt where
  | misuse
  | help
  | version
  deriving DecidableEq, Repr

/-- How a report is shown. -/
inductive SummaryFormat where
  | text
  | json
  deriving DecidableEq, Repr

namespace SummaryFormat

/-- The format of a name. -/
def ofName? : String → Option SummaryFormat
  | "text" => some text
  | "json" => some json
  | _ => none

end SummaryFormat

namespace CommandName

/-- The command of a name. -/
def ofName? : String → Option CommandName
  | "generate" => some generate
  | "check" => some check
  | _ => none

/-- The command knows the setting. -/
def knows : CommandName → Setting → Bool
  | .check, .out => false
  | _, _ => true

end CommandName

/-- The switches of the program or of a command, by their long names. -/
def longSwitch? (command : Option CommandName) (name : String) : Option Switch :=
  match command, name with
  | _, "help" => some .help
  | _, "format" => some (.takes .format)
  | none, "version" => some .version
  | none, _ => none
  | some _, "manifest" => some (.takes .manifest)
  | some _, "config" => some (.takes .settings)
  | some c, "out" => if c.knows .out then some (.takes .out) else none
  | some _, _ => none

/-- The switches by their letters. -/
def shortSwitch? (command : Option CommandName) (letter : Char) : Option Switch :=
  match command, letter with
  | _, 'h' => some .help
  | none, 'V' => some .version
  | none, _ => none
  | some _, 'm' => some (.takes .manifest)
  | some c, 'o' => if c.knows .out then some (.takes .out) else none
  | some _, _ => none

/-! ## Values -/

/-- The values given so far. -/
abbrev Assignments := List (Setting × String)

/-- A value that the setting can have. -/
def isAllowed (setting : Setting) (value : String) : Bool :=
  match setting with
  | .format => (SummaryFormat.ofName? value).isSome
  | _ => !value.isEmpty

/-- The values with one more. -/
def Assignments.put (given : Assignments) (setting : Setting) (value : String) :
    Except Halt Assignments :=
  if (given.lookup setting).isSome || !isAllowed setting value then .error .misuse
  else .ok ((setting, value) :: given)

/-! ## Reading -/

/-- One argument, by its form. -/
inductive Shape where
  | plain
  | endOfSwitches
  | long (name : String) (value : Option String)
  | short (letters : List Char)
  deriving DecidableEq, Repr

/-- The form of an argument. A single dash is a plain one. -/
def shapeOf (arg : String) : Shape :=
  match arg.toList with
  | ['-'] => .plain
  | ['-', '-'] => .endOfSwitches
  | '-' :: '-' :: cs =>
    match Text.segments '=' cs with
    -- Only the first equals sign cuts; any further ones belong to the value.
    | name :: value :: more =>
      .long (String.ofList name) (some (String.ofList (Text.joinWith '=' (value :: more))))
    | _ => .long (String.ofList cs) none
  | '-' :: letters => .short letters
  | _ => .plain

/-- What the letters after a dash come to: values, and a setting that still waits for its value. -/
def readLetters (command : Option CommandName) (given : Assignments) :
    List Char → Except Halt (Assignments × Option Setting)
  | [] => .ok (given, none)
  | letter :: rest =>
    match shortSwitch? command letter with
    | none => .error .misuse
    | some .help => .error .help
    | some .version => .error .version
    | some (.takes setting) =>
      match rest with
      | [] => .ok (given, some setting)
      | '=' :: value => (given.put setting (String.ofList value)).map (·, none)
      | value => (given.put setting (String.ofList value)).map (·, none)

/-- What an argument with two dashes comes to. -/
def readLong (command : Option CommandName) (given : Assignments) (name : String) :
    Option String → Except Halt (Assignments × Option Setting)
  | value =>
    match longSwitch? command name, value with
    | none, _ => .error .misuse
    | some .help, none => .error .help
    | some .version, none => .error .version
    | some (.takes setting), none => .ok (given, some setting)
    | some (.takes setting), some value => (given.put setting value).map (·, none)
    | some _, some _ => .error .misuse

/-- Reads switches up to the first plain argument. Returns the values, and that argument with those
after it; nothing but the end may follow two dashes. -/
def readSwitches (command : Option CommandName) (given : Assignments) (waiting : Option Setting) :
    List String → Except Halt (Assignments × List String)
  | [] => if waiting.isSome then .error .misuse else .ok (given, [])
  | arg :: rest =>
    match shapeOf arg, waiting with
    | .plain, some setting => do
      let given ← given.put setting arg
      readSwitches command given none rest
    | .plain, none => .ok (given, arg :: rest)
    | _, some _ => .error .misuse
    | .endOfSwitches, none => if rest.isEmpty then .ok (given, []) else .error .misuse
    | .long name value, none => do
      let (given, waiting) ← readLong command given name value
      readSwitches command given waiting rest
    | .short letters, none => do
      let (given, waiting) ← readLetters command given letters
      readSwitches command given waiting rest

/-- A command with what it alone needs. -/
inductive Command where
  | generate (out : Path)
  | check
  deriving DecidableEq, Repr

/-- The command of a name, given the value of the output directory if there is one. -/
def CommandName.command? : CommandName → Option String → Option Command
  | .generate, some out => some (.generate ⟨out⟩)
  | .generate, none => none
  | .check, _ => some .check

/-- What the program is asked to do. -/
structure Request where
  command : Command
  manifest : Path
  settings : Option Path
  format : SummaryFormat
  deriving DecidableEq, Repr

/-- The request for a command, from the values given before its name and after it. A settings file
that is not given may come from the environment. -/
def requestOf (name : CommandName) (outer inner : Assignments)
    (settingsVariable : Option String) : Except Halt Request :=
  let settings := inner.lookup .settings <|> settingsVariable
  let format := (inner.lookup .format <|> outer.lookup .format).bind SummaryFormat.ofName?
  -- An argument is never empty here, but the variable may be.
  if settings = some "" then .error .misuse
  else
    match inner.lookup .manifest, name.command? (inner.lookup .out) with
    | some manifest, some command => .ok {
        command
        manifest := ⟨manifest⟩
        settings := settings.map Path.mk
        format := format.getD .text }
    | _, _ => .error .misuse

/-- The command that help is asked for has to be there. -/
def readHelp : List String → Halt
  | [] => .help
  | [name] => if name = "help" || (CommandName.ofName? name).isSome then .help else .misuse
  | _ => .misuse

/-- Reads the arguments of the program. -/
def readArguments (args : List String) (settingsVariable : Option String) :
    Except Halt Request := do
  match ← readSwitches none [] none args with
  | (_, []) => .error .misuse
  | (outer, name :: rest) =>
    match CommandName.ofName? name with
    | none => .error (if name = "help" then readHelp rest else .misuse)
    | some command =>
      match ← readSwitches (some command) [] none rest with
      | (inner, []) => requestOf command outer inner settingsVariable
      | _ => .error .misuse

end ViewBinding.CommandLine
