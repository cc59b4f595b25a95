/-!
# Lists of problems

The problems that a validation finds, in the order in which it finds them. Problems of a part are
taken over with the route to the part in front.
-/

namespace ViewBinding

/-- The problems found so far. -/
structure Problems where
  messages : List String := []
  deriving DecidableEq, Repr

namespace Problems

/-- The problems and one more. -/
def add (p : Problems) (message : String) : Problems :=
  ⟨p.messages ++ [message]⟩

/-- The problems and those of a part. -/
def addChild (p : Problems) (route : String) (child : Problems) : Problems :=
  ⟨p.messages ++ child.messages.map fun message => s!"{route}: {message}"⟩

/-- The problems and the one of a check, if it failed. -/
def addResult {ε : Type} (p : Problems) (wording : ε → String) : Except ε Unit → Problems
  | .ok () => p
  | .error e => p.add (wording e)

/-- Nothing found. -/
def isEmpty (p : Problems) : Bool :=
  p.messages.isEmpty

/-- How many were found. -/
def size (p : Problems) : Nat :=
  p.messages.length

/-- All problems in one line. -/
def display (p : Problems) : String :=
  "; ".intercalate p.messages

/-- Success if nothing was found. -/
def result (p : Problems) : Except Problems Unit :=
  if p.isEmpty then .ok () else .error p

theorem result_eq_ok_iff {p : Problems} : p.result = .ok () ↔ p.messages = [] := by
  cases p with
  | mk messages => cases messages <;> simp [result, isEmpty]

end Problems

end ViewBinding
