import ViewBinding.Code.Sink
import ViewBinding.Text.Blank

/-!
# Indented writing

A writer puts pieces of text into a sink and indents each line by its level, but not before the
line receives a piece that is not blank. A refused piece ends the operation that offered it.

* `level_write`, `level_newline`: writing leaves the level alone.
-/

namespace ViewBinding.Code

open ViewBinding.Text

/-- A writer over a sink with states `σ`. -/
structure Writer (σ : Type) where
  held : σ
  unit : String
  level : Nat := 0
  atLineStart : Bool := true

/-- How an operation ends: with the writer as it leaves it, and whether every piece was taken. -/
abbrev Attempt (σ : Type) := Writer σ × Bool

/-- Goes on with the next operation if the last one succeeded. -/
def Attempt.andThen {σ : Type} (a : Attempt σ) (next : Writer σ → Attempt σ) : Attempt σ :=
  if a.2 then next a.1 else a

namespace Writer

variable {σ : Type} (sink : Sink σ)

/-- Offers one piece to the sink. -/
def offer (w : Writer σ) (piece : String) : Attempt σ :=
  let answer := sink.offer w.held piece
  ({ w with held := answer.1 }, answer.2)

/-- Offers the indentation unit `n` times. -/
def offerUnits (w : Writer σ) : Nat → Attempt σ
  | 0 => (w, true)
  | n + 1 => Attempt.andThen (w.offer sink w.unit) fun w => offerUnits w n

/-- Indents the line, which is then no longer at its start. -/
def startLine (w : Writer σ) : Attempt σ :=
  Attempt.andThen (w.offerUnits sink w.level) fun w => ({ w with atLineStart := false }, true)

/-- Writes a text. At the start of a line, a text that is not blank is indented first. -/
def write (w : Writer σ) (text : String) : Attempt σ :=
  if text.isEmpty then (w, true)
  else if w.atLineStart && !isBlankText text then
    Attempt.andThen (w.startLine sink) fun w => w.offer sink text
  -- A blank text at the start of a line goes out as it is, and the line counts as not begun.
  else w.offer sink text

/-- Ends the line. -/
def newline (w : Writer σ) : Attempt σ :=
  Attempt.andThen (w.offer sink "\n") fun w => ({ w with atLineStart := true }, true)

/-- Writes a text and ends the line. -/
def writeLine (w : Writer σ) (text : String) : Attempt σ :=
  Attempt.andThen (w.write sink text) fun w => w.newline sink

/-- Writes a line comment. -/
def comment (w : Writer σ) (text : String) : Attempt σ :=
  Attempt.andThen (w.write sink "// ") fun w => w.writeLine sink text

/-- One level deeper. -/
def indent (w : Writer σ) : Writer σ :=
  { w with level := w.level + 1 }

/-- `n` levels up, but not past the outermost. -/
def dedent (w : Writer σ) (n : Nat) : Writer σ :=
  { w with level := w.level - n }

theorem level_offer (w : Writer σ) (piece : String) : (w.offer sink piece).1.level = w.level := rfl

theorem level_offerUnits (w : Writer σ) (n : Nat) : (w.offerUnits sink n).1.level = w.level := by
  induction n generalizing w with
  | zero => rfl
  | succ n ih =>
    simp only [offerUnits, Attempt.andThen]
    split
    · rw [ih, level_offer]
    · rw [level_offer]

theorem level_write (w : Writer σ) (text : String) : (w.write sink text).1.level = w.level := by
  simp only [write, startLine, Attempt.andThen]
  split
  · rfl
  · split
    · split
      · exact (level_offer sink _ _).trans (level_offerUnits sink w _)
      · exact level_offerUnits sink w _
    · rfl

theorem level_newline (w : Writer σ) : (w.newline sink).1.level = w.level := by
  simp only [newline, Attempt.andThen]
  split <;> rfl

end Writer

end ViewBinding.Code
