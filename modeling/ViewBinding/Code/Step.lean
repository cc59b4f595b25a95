import ViewBinding.Code.Writer

/-!
# Programs of writing

What is to be written, as data: texts and lines, deeper and shallower levels, and blocks in
braces. Running such steps on a writer leaves a trace, one entry for each finished step.

* `render`: the text that steps write on a page.
* `runBody_nil`: no steps change nothing.
-/

namespace ViewBinding.Code

/-- One step of writing. `indent` and `dedent` take and drop a level of the list they stand in;
levels that a list still holds at its end are dropped there. -/
inductive Step where
  | write (text : String)
  | line (text : String)
  | blankLine
  | comment (text : String)
  | indent
  | dedent
  | block (header trailer : String) (body : List Step)
  deriving Inhabited

/-- The record of a finished step: whether it succeeded, the level after it, and the sizes of the
sink before and after. -/
structure Trace where
  ok : Bool
  level : Nat
  start : Nat
  stop : Nat
  deriving DecidableEq, Repr

/-- Where a run stands: the writer, the levels that the current list holds, whether the last step
succeeded, and the steps finished so far. -/
structure Progress (σ : Type) where
  writer : Writer σ
  taken : Nat
  ok : Bool
  traces : List Trace

namespace Step

variable {σ : Type} (sink : Sink σ)

/-- Completes a step that began with the sink at size `start`. -/
def finish (start : Nat) (inner : List Trace) (taken : Nat) (a : Attempt σ) : Progress σ where
  writer := a.1
  taken := taken
  ok := a.2
  traces := inner ++ [⟨a.2, a.1.level, start, sink.size a.1.held⟩]

mutual

/-- Runs one step in a list that holds `taken` levels. A block whose header or body fails goes no
further, but gives all its levels back. -/
def run (w : Writer σ) (taken : Nat) : Step → Progress σ
  | .write text => finish sink (sink.size w.held) [] taken (w.write sink text)
  | .line text => finish sink (sink.size w.held) [] taken (w.writeLine sink text)
  | .blankLine => finish sink (sink.size w.held) [] taken (w.newline sink)
  | .comment text => finish sink (sink.size w.held) [] taken (w.comment sink text)
  | .indent => finish sink (sink.size w.held) [] (taken + 1) (w.indent, true)
  | .dedent =>
    match taken with
    | 0 => finish sink (sink.size w.held) [] 0 (w, true)
    | taken + 1 => finish sink (sink.size w.held) [] taken (w.dedent 1, true)
  | .block header trailer body =>
    let head := Attempt.andThen (w.write sink header) fun w => w.writeLine sink " \x7b"
    if head.2 then
      let inside := runBody head.1.indent 0 body
      let after := (inside.writer.dedent inside.taken).dedent 1
      finish sink (sink.size w.held) inside.traces taken <|
        Attempt.andThen (after, inside.ok) fun w =>
          Attempt.andThen (w.write sink "\x7d") fun w => w.writeLine sink trailer
    else finish sink (sink.size w.held) [] taken head

/-- Runs the steps of a body up to the first that fails. -/
def runBody (w : Writer σ) (taken : Nat) : List Step → Progress σ
  | [] => ⟨w, taken, true, []⟩
  | step :: rest =>
    let now := run w taken step
    if now.ok then
      let later := runBody now.writer now.taken rest
      { later with traces := now.traces ++ later.traces }
    else now

end

/-- Runs all steps, whether or not one of them fails. -/
def runAll (w : Writer σ) (taken : Nat) : List Step → Progress σ
  | [] => ⟨w, taken, true, []⟩
  | step :: rest =>
    let now := run sink w taken step
    let later := runAll now.writer now.taken rest
    { later with ok := now.ok && later.ok, traces := now.traces ++ later.traces }

/-- Runs a whole script and drops the levels that it still holds. -/
def runScript (w : Writer σ) (steps : List Step) : Progress σ :=
  let done := runAll sink w 0 steps
  { done with writer := done.writer.dedent done.taken, taken := 0 }

/-- The text that steps write on an empty page. -/
def render (unit : String) (steps : List Step) : String :=
  (runBody Sink.page { held := "", unit } 0 steps).writer.held

theorem runBody_nil (w : Writer σ) (taken : Nat) :
    runBody sink w taken [] = ⟨w, taken, true, []⟩ := by
  simp [runBody]

end Step

end ViewBinding.Code
