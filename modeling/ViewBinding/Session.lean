import ViewBinding.Injector.Emission
import ViewBinding.Round

/-!
# Sessions

A session runs over the rounds of one compilation. Each round gathers its reports and settles every
injector: one with conflicts is skipped, any other is emitted. Nothing is kept for the next round.

* `Verdict.diagnostics`: a verdict reports one error per conflict or failure, and none on success.
-/

namespace ViewBinding

/-- Why a session could not start. -/
inductive StartError where
  | missingStore
  | missingLog
  | invalidSettings (problems : Problems)
  deriving DecidableEq, Repr

/-- The wording of an error. -/
def StartError.message : StartError → String
  | missingStore => "host did not provide a filer"
  | missingLog => "host did not provide a messager"
  | invalidSettings problems => Settings.invalidMessage problems

/-- What a build has to offer to a session; each facility is handed out once. -/
structure Facilities where
  store : Bool := true
  log : Bool := true
  version : SourceVersion := {}
  deriving DecidableEq, Repr

/-- What became of one injector. -/
inductive Verdict where
  | generated (source : Generated)
  | skipped (conflicts : List Conflict)
  | failed (error : EmissionError)
  deriving DecidableEq, Repr

namespace Verdict

/-- The errors that a verdict reports. -/
def messages : Verdict → List String
  | generated _ => []
  | skipped conflicts => conflicts.map Conflict.message
  | failed error => [error.message]

/-- The diagnostics of a verdict on the injector of a class. -/
def diagnostics (v : Verdict) (host : HostClass) : List Diagnostic :=
  v.messages.map fun message => Diagnostic.onClass .error message host

/-- The source, of a generated injector. -/
def generated? : Verdict → Option Generated
  | generated source => some source
  | _ => none

/-- The injector was skipped. -/
def isSkipped : Verdict → Bool
  | skipped _ => true
  | _ => false

/-- The injector was not emitted. -/
def isFailed : Verdict → Bool
  | failed _ => true
  | _ => false

end Verdict

/-- What one round did. -/
structure Outcome where
  round : Nat
  tally : Tally
  generated : List Generated
  skipped : List String
  failed : List String
  deriving DecidableEq, Repr

namespace Outcome

/-- The outcome of a round, given the verdict on each host class in order. -/
def ofVerdicts (round : Nat) (tally : Tally) (verdicts : List (HostClass × Verdict)) : Outcome where
  round := round
  tally := tally
  generated := verdicts.filterMap (·.2.generated?)
  skipped := (verdicts.filter (·.2.isSkipped)).map (·.1.name)
  failed := (verdicts.filter (·.2.isFailed)).map (·.1.name)

/-- Nothing was rejected, skipped or failed. -/
def isClean (o : Outcome) : Bool :=
  o.tally.rejected == 0 && o.skipped.isEmpty && o.failed.isEmpty

end Outcome

/-- A session between two rounds. -/
structure Session where
  settings : Settings
  version : SourceVersion
  roster : Roster := .empty
  log : List Diagnostic := []
  rounds : Nat := 0

namespace Session

/-- Starts a session with valid settings, taking the facilities. -/
def start (facilities : Facilities) (settings : Settings) :
    Except StartError (Session × Facilities) :=
  -- Wrong settings are reported before a facility is asked for, so that none is taken in vain.
  match settings.check with
  | .error problems => .error (.invalidSettings problems)
  | .ok () =>
    if !facilities.store then .error .missingStore
    else if !facilities.log then .error .missingLog
    else .ok ({ settings, version := facilities.version },
      { facilities with store := false, log := false })

/-- The note at the start of a round. -/
def roundNote (number : Nat) (final : Bool) : Diagnostic :=
  let suffix := if final then " (final)" else ""
  { level := .note, message := s!"viewinject round {number}{suffix}" }

/-- Skips an injector with conflicts and emits any other. -/
def settle {m : Type → Type} [Monad m] (s : Session) (store : Store m) (i : Injector) :
    m (HostClass × Verdict) := do
  if i.hasConflicts then return (i.host, .skipped i.conflicts)
  else
    match ← i.emit s.settings s.version store with
    | .ok source => return (i.host, .generated source)
    | .error e => return (i.host, .failed e)

/-- Settles injectors one after the other. -/
def settleAll {m : Type → Type} [Monad m] (s : Session) (store : Store m) :
    List Injector → m (List (HostClass × Verdict))
  | [] => return []
  | i :: rest => do
    let verdict ← s.settle store i
    let verdicts ← settleAll s store rest
    return verdict :: verdicts

/-- The session after a round, given what the round gathered and the verdicts. -/
def afterRound (s : Session) (round : Round) (g : Gathering)
    (verdicts : List (HostClass × Verdict)) : Session :=
  { s with
    roster := g.roster.drain.2
    rounds := s.rounds + 1
    log := s.log ++ [roundNote (s.rounds + 1) round.final] ++ g.log ++
      verdicts.flatMap fun v => v.2.diagnostics v.1 }

/-- Runs one round: gathers its reports into a cleared roster and settles the injectors drained from
it, in the order of their host classes. -/
def runRound {m : Type → Type} [Monad m] (s : Session) (store : Store m) (round : Round) :
    m (Session × Outcome) := do
  let g := round.gatherInto s.roster.clear
  let verdicts ← s.settleAll store g.roster.drain.1
  return (s.afterRound round g verdicts, .ofVerdicts (s.rounds + 1) g.tally verdicts)

end Session

end ViewBinding
