import ViewBinding.Code.Writer

/-!
# Operations of a writer as strokes

Whatever an operation writes, it is a sequence of strokes: a text is written, or the line is ended.
The first stroke that is refused ends the operation.

* `Output`: the operations that only write, as data.
* `Output.put_eq`, `Writer.openBlock_eq`, `Writer.closeBlock_eq`: their strokes.
* `Writer.level_putAll`: strokes leave the level alone.
-/

namespace ViewBinding.Code

variable {σ : Type}

namespace Attempt

/-- Nothing more to do. -/
theorem andThen_done (a : Attempt σ) : (andThen a fun w => (w, true)) = a := by
  obtain ⟨w, ok⟩ := a
  cases ok <;> rfl

theorem level_andThen (a : Attempt σ) {f : Writer σ → Attempt σ}
    (h : ∀ w, (f w).1.level = w.level) : (andThen a f).1.level = a.1.level := by
  obtain ⟨w, ok⟩ := a
  cases ok with
  | false => rfl
  | true => exact h w

end Attempt

/-! ## Strokes -/

/-- A text, or the end of a line. -/
inductive Stroke where
  | text (text : String)
  | feed
  deriving DecidableEq, Repr

variable (sink : Sink σ)

/-- Makes a stroke. -/
def Stroke.put (w : Writer σ) : Stroke → Attempt σ
  | .text t => w.write sink t
  | .feed => w.newline sink

/-- Makes strokes up to the first that is refused. -/
def Writer.putAll (w : Writer σ) : List Stroke → Attempt σ
  | [] => (w, true)
  | stroke :: rest => Attempt.andThen (stroke.put sink w) fun w => putAll w rest

theorem Writer.level_putAll (w : Writer σ) (strokes : List Stroke) :
    (w.putAll sink strokes).1.level = w.level := by
  induction strokes generalizing w with
  | nil => rfl
  | cons stroke rest ih =>
    rw [putAll, Attempt.level_andThen _ fun w => ih w]
    cases stroke with
    | text t => exact level_write sink w t
    | feed => exact level_newline sink w

theorem Writer.putAll_singleton (w : Writer σ) (stroke : Stroke) :
    w.putAll sink [stroke] = stroke.put sink w :=
  Attempt.andThen_done _

theorem Writer.writeLine_eq (w : Writer σ) (text : String) :
    w.writeLine sink text = w.putAll sink [.text text, .feed] := by
  simp only [writeLine, putAll, Stroke.put, Attempt.andThen_done]

/-! ## Operations -/

/-- An operation that only writes. What is formatted is put together first, and is one text. -/
inductive Output where
  | text (text : String)
  | format (parts : List String)
  | line (text : String)
  | formatLine (parts : List String)
  | blankLine
  | comment (text : String)
  deriving DecidableEq, Repr

/-- Writes it. -/
def Output.put (w : Writer σ) : Output → Attempt σ
  | .text t => w.write sink t
  | .format parts => w.write sink (String.join parts)
  | .line t => w.writeLine sink t
  | .formatLine parts =>
    Attempt.andThen (w.write sink (String.join parts)) fun w => w.writeLine sink ""
  | .blankLine => w.newline sink
  | .comment t => w.comment sink t

/-- Its strokes. -/
def Output.strokes : Output → List Stroke
  | .text t => [.text t]
  | .format parts => [.text (String.join parts)]
  | .line t => [.text t, .feed]
  | .formatLine parts => [.text (String.join parts), .text "", .feed]
  | .blankLine => [.feed]
  | .comment t => [.text "// ", .text t, .feed]

theorem Output.put_eq (w : Writer σ) (output : Output) :
    output.put sink w = w.putAll sink output.strokes := by
  cases output with
  | text t => exact (w.putAll_singleton sink (.text t)).symm
  | format parts => exact (w.putAll_singleton sink (.text (String.join parts))).symm
  | line t => exact w.writeLine_eq sink t
  | formatLine parts => simp only [put, strokes, Writer.writeLine_eq, Writer.putAll, Stroke.put]
  | blankLine => exact (w.putAll_singleton sink .feed).symm
  | comment t =>
    simp only [put, Writer.comment, strokes, Writer.writeLine_eq, Writer.putAll, Stroke.put]

/-- Begins a block: its header and an open brace. -/
def Writer.openBlock (w : Writer σ) (header : String) : Attempt σ :=
  Attempt.andThen (w.write sink header) fun w => w.writeLine sink " \x7b"

/-- Ends a block: its brace and its trailer. -/
def Writer.closeBlock (w : Writer σ) (trailer : String) : Attempt σ :=
  Attempt.andThen (w.write sink "\x7d") fun w => w.writeLine sink trailer

/-- The strokes at the beginning of a block. -/
def openStrokes (header : String) : List Stroke :=
  [.text header, .text " \x7b", .feed]

/-- The strokes at the end of a block. -/
def closeStrokes (trailer : String) : List Stroke :=
  [.text "\x7d", .text trailer, .feed]

theorem Writer.openBlock_eq (w : Writer σ) (header : String) :
    w.openBlock sink header = w.putAll sink (openStrokes header) := by
  simp only [openBlock, openStrokes, writeLine_eq, putAll, Stroke.put]

theorem Writer.closeBlock_eq (w : Writer σ) (trailer : String) :
    w.closeBlock sink trailer = w.putAll sink (closeStrokes trailer) := by
  simp only [closeBlock, closeStrokes, writeLine_eq, putAll, Stroke.put]

end ViewBinding.Code
