import ViewBinding.Diagnostic.Format
import ViewBinding.Session

/-!
# Reports

What a whole run did: the outcome of each round, the files it wrote and what it had to say. A report
is shown as a short summary or as JSON.

* `isSuccess_iff`: a run succeeds exactly if it reported no error.
-/

namespace ViewBinding

/-- The report of a run. -/
structure Report where
  rounds : List Outcome
  written : List String := []
  log : List Diagnostic := []
  deriving DecidableEq, Repr

namespace Report

/-- The number of diagnostics of a level. -/
def count (r : Report) (level : Level) : Nat :=
  Diagnostic.count r.log level

/-- The number of generated injectors. -/
def generated (r : Report) : Nat :=
  (r.rounds.flatMap (·.generated)).length

/-- No error was reported. -/
def isSuccess (r : Report) : Bool :=
  r.count .error == 0

theorem isSuccess_iff {r : Report} :
    r.isSuccess = true ↔ ∀ d ∈ r.log, d.level ≠ .error := by
  simp [isSuccess, count, Diagnostic.count, Diagnostic.atLevel]

/-! ## Summary -/

/-- The lines of the summary: the files, all diagnostics but the notes, and the counts. -/
def summaryLines (r : Report) : List String :=
  r.written.map (fun path => s!"wrote {path}") ++
    (r.log.filter (·.level ≠ .note)).map Diagnostic.display ++
    [s!"{r.generated} injector(s) generated, {r.count .error} error(s), " ++
      s!"{r.count .warning} warning(s)"]

/-- The summary. -/
def summary (r : Report) : String :=
  String.join (r.summaryLines.map (· ++ "\n"))

end Report

/-! ## JSON -/

/-- A tally as JSON. -/
def Tally.toJson (t : Tally) : Json :=
  .object [("scanned", .natural t.scanned), ("accepted", .natural t.accepted),
    ("rejected", .natural t.rejected)]

/-- A generated source as JSON, without its contents. -/
def Generated.toJson (g : Generated) : Json :=
  .object [("owner", .text g.owner), ("qualified_name", .text g.qualifiedName),
    ("bindings", .natural g.bindings)]

/-- The outcome of a round as JSON. -/
def Outcome.toJson (o : Outcome) : Json :=
  .object [("round", .natural o.round), ("collected", o.tally.toJson),
    ("generated", .array (o.generated.map Generated.toJson)), ("skipped", .texts o.skipped),
    ("failed", .texts o.failed)]

/-- A report as JSON. -/
def Report.toJson (r : Report) : Json :=
  .object [("rounds", .array (r.rounds.map Outcome.toJson)), ("written", .texts r.written),
    ("diagnostics", .array (r.log.map Diagnostic.toJson))]

end ViewBinding
