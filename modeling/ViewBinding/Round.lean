import ViewBinding.Diagnostic
import ViewBinding.Injector.Basic
import ViewBinding.Placement

/-!
# Rounds of a compilation

A round reports, for each annotation, the declarations that are to be bound by it. Gathering puts
each of them into the injector of its class, or rejects it with a diagnostic.
-/

namespace ViewBinding

/-- What one round of a compilation reports, and whether it is the last one. -/
structure Round where
  reported : AnnotationKind → List Declaration
  final : Bool := false

namespace Round

/-- The round that reports each declaration for the annotations that it carries. -/
def ofDeclarations (ds : List Declaration) : Round where
  reported kind := ds.filter fun d => (d.annotationOf? kind).isSome

/-- The empty round at the end of a compilation. -/
def closing : Round where
  reported _ := []
  final := true

end Round

/-- How many reports a round brought, and what became of them. -/
structure Tally where
  scanned : Nat := 0
  accepted : Nat := 0
  rejected : Nat := 0
  deriving DecidableEq, Repr

/-- What has been gathered so far. -/
structure Gathering where
  roster : Roster := .empty
  tally : Tally := {}
  log : List Diagnostic := []

namespace Gathering

/-- Takes in one report: an accepted declaration claims its views, a rejected one leaves a
diagnostic. -/
def gatherOne (kind : AnnotationKind) (g : Gathering) (d : Declaration) : Gathering :=
  match d.placeAs kind with
  | .error reason =>
    { g with
      tally := { g.tally with scanned := g.tally.scanned + 1, rejected := g.tally.rejected + 1 }
      log := g.log ++ [Diagnostic.onDeclaration .error reason.message d] }
  | .ok place =>
    { g with
      tally := { g.tally with scanned := g.tally.scanned + 1, accepted := g.tally.accepted + 1 }
      roster := g.roster.update place.owner (·.bindAll place.table place.ids d) }

/-- Takes in all reports of a round, those of `BindView` first. -/
def gather (round : Round) (g : Gathering) : Gathering :=
  AnnotationKind.all.foldl (fun g kind => (round.reported kind).foldl (gatherOne kind) g) g

end Gathering

/-- Gathers a round into a roster. -/
def Round.gatherInto (round : Round) (roster : Roster) : Gathering :=
  Gathering.gather round { roster }

end ViewBinding
