/-!
# Sets of characters given by runs of code points

A table of a character property is a list of runs. A run is a pair of its first and last code
point; a stepped run has a third number, the distance between two of its members.

* `inRuns_iff`: membership is membership in one of the runs.
-/

namespace ViewBinding.Text

/-- `n` lies in one of the runs. -/
def inRuns (runs : List (Nat × Nat)) (n : Nat) : Bool :=
  runs.any fun run => run.1 ≤ n && n ≤ run.2

/-- `n` lies in one of the stepped runs. -/
def inSteppedRuns (runs : List (Nat × Nat × Nat)) (n : Nat) : Bool :=
  runs.any fun run => run.1 ≤ n && n ≤ run.2.1 && (n - run.1) % run.2.2 == 0

theorem inRuns_iff {runs : List (Nat × Nat)} {n : Nat} :
    inRuns runs n = true ↔ ∃ run ∈ runs, run.1 ≤ n ∧ n ≤ run.2 := by
  simp [inRuns]

end ViewBinding.Text
