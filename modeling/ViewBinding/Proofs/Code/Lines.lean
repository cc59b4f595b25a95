import ViewBinding.Code.Step

/-!
# Programs of writing as lists of lines

A program that writes whole lines, comments and blocks in braces leaves lines on a page, each
indented by the depth of the blocks around it.

* `Step.lines`: the lines of a program, said without a writer.
* `Step.run_page`: one step of such a program, from the start of a line.
* `Step.render_eq`: what the whole program writes.
-/

namespace ViewBinding.Code

open ViewBinding.Text

/-- A line of text and how deep it stands. -/
structure Line where
  level : Nat
  text : String
  deriving DecidableEq, Repr

namespace Line

/-- The indentation of a level. -/
def indentation (unit : String) (level : Nat) : String :=
  String.join (List.replicate level unit)

/-- The line with its indentation and its end. -/
def print (unit : String) (l : Line) : String :=
  indentation unit l.level ++ l.text ++ "\n"

/-- All lines, one below the other. -/
def printAll (unit : String) (ls : List Line) : String :=
  String.join (ls.map (print unit))

theorem indentation_succ (unit : String) (n : Nat) :
    indentation unit (n + 1) = unit ++ indentation unit n := by
  rw [indentation, List.replicate_succ, String.join_cons, ← indentation]

theorem printAll_cons (unit : String) (l : Line) (ls : List Line) :
    printAll unit (l :: ls) = l.print unit ++ printAll unit ls := by
  rw [printAll, List.map_cons, String.join_cons, ← printAll]

theorem printAll_singleton (unit : String) (l : Line) : printAll unit [l] = l.print unit := by
  rw [printAll_cons, printAll, List.map_nil, String.join_nil, String.append_empty]

theorem printAll_append (unit : String) (ls ms : List Line) :
    printAll unit (ls ++ ms) = printAll unit ls ++ printAll unit ms := by
  rw [printAll, List.map_append, String.join_append, ← printAll, ← printAll]

theorem printAll_nil (unit : String) : printAll unit [] = "" := rfl

end Line

/-- The text stays in one line. -/
def OneLine (text : String) : Prop :=
  '\n' ∉ text.toList

instance (text : String) : Decidable (OneLine text) :=
  inferInstanceAs (Decidable ('\n' ∉ text.toList))

theorem OneLine.append {a b : String} (ha : OneLine a) (hb : OneLine b) : OneLine (a ++ b) := by
  unfold OneLine
  rw [String.toList_append, List.mem_append, not_or]
  exact ⟨ha, hb⟩

/-! ## A writer on a page -/

namespace Writer

variable (w : Writer String)

/-- The writer after some text that ends a line. -/
def below (text : String) : Writer String :=
  { w with held := w.held ++ text, atLineStart := true }

theorem below_below (text rest : String) : (w.below text).below rest = w.below (text ++ rest) := by
  simp only [below, String.append_assoc]

theorem below_empty (hs : w.atLineStart = true) : w.below "" = w := by
  obtain ⟨held, unit, level, atLineStart⟩ := w
  cases hs
  simp [below]

/-- What is written a level deeper stands below, once the level is given back. -/
theorem dedent_below_indent (text : String) :
    ((w.indent.below text).dedent 0).dedent 1 = w.below text := rfl

theorem offerUnits_page (n : Nat) :
    w.offerUnits Sink.page n = ({ w with held := w.held ++ Line.indentation w.unit n }, true) := by
  induction n generalizing w with
  | zero => simp [offerUnits, Line.indentation]
  | succ n ih =>
    rw [Line.indentation_succ, ← String.append_assoc]
    exact ih { w with held := w.held ++ w.unit }

/-- At the start of a line, a text that is not blank is indented. -/
theorem write_page_of_start {text : String} (hs : w.atLineStart = true)
    (ht : isBlankText text = false) :
    w.write Sink.page text =
      ({ w with
          held := w.held ++ Line.indentation w.unit w.level ++ text
          atLineStart := false }, true) := by
  have hne : text.isEmpty = false := by
    rw [Bool.eq_false_iff, ne_eq, String.isEmpty_iff]
    rintro rfl
    cases ht
  simp [write, hne, hs, ht, startLine, offerUnits_page, Attempt.andThen, offer]

/-- Inside a line, any text is passed on as it is. -/
theorem write_page_of_inside (text : String) (hs : w.atLineStart = false) :
    w.write Sink.page text = ({ w with held := w.held ++ text }, true) := by
  by_cases hne : text.isEmpty
  · rw [String.isEmpty_iff] at hne
    subst hne
    simp [write]
  · simp [write, hne, hs, offer]

theorem newline_page : w.newline Sink.page = (w.below "\n", true) := rfl

/-- The rest of a line that has been begun. -/
theorem writeLine_page_of_inside (text : String) (hs : w.atLineStart = false) :
    w.writeLine Sink.page text = (w.below (text ++ "\n"), true) := by
  rw [writeLine, w.write_page_of_inside text hs]
  simp [Attempt.andThen, newline_page, below, String.append_assoc]

/-- A line in two pieces. -/
theorem write_writeLine_page (text rest : String) (hs : w.atLineStart = true)
    (ht : isBlankText text = false) :
    Attempt.andThen (w.write Sink.page text) (fun w => w.writeLine Sink.page rest) =
      (w.below (Line.print w.unit ⟨w.level, text ++ rest⟩), true) := by
  rw [w.write_page_of_start hs ht, Attempt.andThen, if_pos rfl, writeLine_page_of_inside _ _ rfl]
  simp [below, Line.print, String.append_assoc]

theorem writeLine_page_of_start {text : String} (hs : w.atLineStart = true)
    (ht : isBlankText text = false) :
    w.writeLine Sink.page text = (w.below (Line.print w.unit ⟨w.level, text⟩), true) := by
  rw [writeLine, w.write_page_of_start hs ht]
  simp [Attempt.andThen, newline_page, below, Line.print, String.append_assoc]

end Writer

/-! ## Programs of lines -/

namespace Step

mutual

/-- The step writes whole lines: no line and no header of a block is blank. -/
def WritesLines : Step → Prop
  | .line text => isBlankText text = false
  | .blankLine | .comment _ => True
  | .block header _ body => isBlankText header = false ∧ WriteLines body
  | .write _ | .indent | .dedent => False

/-- All steps write whole lines. -/
def WriteLines : List Step → Prop
  | [] => True
  | step :: rest => WritesLines step ∧ WriteLines rest

end

mutual

/-- The lines of a step at a level. -/
def lines (level : Nat) : Step → List Line
  | .line text => [⟨level, text⟩]
  | .blankLine => [⟨0, ""⟩]
  | .comment text => [⟨level, "// " ++ text⟩]
  | .block header trailer body =>
    ⟨level, header ++ " \x7b"⟩ :: (linesAll (level + 1) body ++ [⟨level, "\x7d" ++ trailer⟩])
  | .write _ | .indent | .dedent => []

/-- The lines of several steps at a level. -/
def linesAll (level : Nat) : List Step → List Line
  | [] => []
  | step :: rest => lines level step ++ linesAll level rest

end

theorem writeLines_append {xs ys : List Step} :
    WriteLines (xs ++ ys) ↔ WriteLines xs ∧ WriteLines ys := by
  induction xs with
  | nil => simp [WriteLines]
  | cons x xs ih => rw [List.cons_append, WriteLines, WriteLines, ih, and_assoc]

theorem linesAll_append (level : Nat) (xs ys : List Step) :
    linesAll level (xs ++ ys) = linesAll level xs ++ linesAll level ys := by
  induction xs with
  | nil => rfl
  | cons x xs ih => rw [List.cons_append, linesAll, linesAll, ih, List.append_assoc]

theorem writeLines_iff {xs : List Step} : WriteLines xs ↔ ∀ x ∈ xs, WritesLines x := by
  induction xs with
  | nil => simp [WriteLines]
  | cons x xs ih => rw [WriteLines, ih, List.forall_mem_cons]

theorem linesAll_eq_flatMap (level : Nat) (xs : List Step) :
    linesAll level xs = xs.flatMap (lines level) := by
  induction xs with
  | nil => rfl
  | cons x xs ih => rw [linesAll, ih, List.flatMap_cons]

/-- A run from the start of a line succeeds, leaves the lines on the page and holds no more levels
than before. -/
structure Leaves (p : Progress String) (w : Writer String) (taken : Nat) (ls : List Line) :
    Prop where
  writer : p.writer = w.below (Line.printAll w.unit ls)
  taken : p.taken = taken
  ok : p.ok = true

theorem leaves_finish {w : Writer String} {start taken : Nat} {inner : List Trace}
    {a : Attempt String} {ls : List Line} (h : a = (w.below (Line.printAll w.unit ls), true)) :
    Leaves (finish Sink.page start inner taken a) w taken ls := by
  subst h
  exact ⟨rfl, rfl, rfl⟩

/-- The steps of a body go on below the lines of the first. -/
theorem Leaves.cons {w : Writer String} {taken : Nat} {step : Step} {rest : List Step}
    (h : Leaves (run Sink.page w taken step) w taken (lines w.level step))
    (hrest : ∀ text, Leaves (runBody Sink.page (w.below text) taken rest) (w.below text) taken
      (linesAll w.level rest)) :
    Leaves (runBody Sink.page w taken (step :: rest)) w taken
      (linesAll w.level (step :: rest)) := by
  obtain ⟨hwriter, htaken, hok⟩ := h
  obtain ⟨hwriter', htaken', hok'⟩ := hrest (Line.printAll w.unit (lines w.level step))
  rw [runBody, if_pos hok, hwriter, htaken, linesAll]
  refine ⟨?_, htaken', hok'⟩
  rw [Line.printAll_append, ← Writer.below_below]
  exact hwriter'

/-- A block leaves its header, the lines of its body one level deeper, and its brace. -/
theorem Leaves.block {w : Writer String} {taken : Nat} {header trailer : String} {body : List Step}
    (hs : w.atLineStart = true) (hheader : isBlankText header = false)
    (hbody : ∀ text, Leaves (runBody Sink.page (w.below text).indent 0 body) (w.below text).indent 0
      (linesAll (w.level + 1) body)) :
    Leaves (run Sink.page w taken (.block header trailer body)) w taken
      (lines w.level (.block header trailer body)) := by
  have hhead := w.write_writeLine_page header " \x7b" hs hheader
  obtain ⟨hwriter, htaken, hok⟩ := hbody (Line.print w.unit ⟨w.level, header ++ " \x7b"⟩)
  rw [run, hhead]
  simp only [if_true]
  -- The body holds no levels in the end, so the brace stands where the header does.
  rw [hwriter, htaken, hok, Writer.dedent_below_indent, Writer.below_below]
  refine leaves_finish ?_
  rw [Attempt.andThen, if_pos rfl, Writer.write_writeLine_page _ "\x7d" trailer rfl rfl,
    Writer.below_below, lines, Line.printAll_cons, Line.printAll_append, Line.printAll_singleton,
    ← String.append_assoc]
  rfl

mutual

/-- A step that writes whole lines leaves its lines on a page. -/
theorem run_page (w : Writer String) (taken : Nat) (hs : w.atLineStart = true) (step : Step)
    (h : WritesLines step) :
    Leaves (run Sink.page w taken step) w taken (lines w.level step) := by
  cases step with
  | write text => exact h.elim
  | indent => exact h.elim
  | dedent => exact h.elim
  | line text =>
    rw [run, lines]
    refine leaves_finish ?_
    rw [w.writeLine_page_of_start hs h, Line.printAll_singleton]
  | blankLine =>
    rw [run, lines]
    refine leaves_finish ?_
    rw [w.newline_page, Line.printAll_singleton]
    rfl
  | comment text =>
    rw [run, lines]
    refine leaves_finish ?_
    rw [Line.printAll_singleton]
    exact w.write_writeLine_page "// " text hs rfl
  | block header trailer body =>
    rw [WritesLines] at h
    exact Leaves.block hs h.1 fun text => runBody_page _ 0 rfl body h.2

/-- Steps that write whole lines leave their lines on a page. -/
theorem runBody_page (w : Writer String) (taken : Nat) (hs : w.atLineStart = true)
    (steps : List Step) (h : WriteLines steps) :
    Leaves (runBody Sink.page w taken steps) w taken (linesAll w.level steps) := by
  cases steps with
  | nil =>
    rw [runBody_nil, linesAll]
    exact ⟨(w.below_empty hs).symm, rfl, rfl⟩
  | cons step rest =>
    rw [WriteLines] at h
    exact (run_page w taken hs step h.1).cons fun text =>
      runBody_page (w.below text) taken rfl rest h.2

end

/-- A program of whole lines renders to its lines. -/
theorem render_eq (unit : String) {steps : List Step} (h : WriteLines steps) :
    render unit steps = Line.printAll unit (linesAll 0 steps) := by
  have hwriter := (runBody_page { held := "", unit } 0 rfl steps h).writer
  rw [render, hwriter]
  simp [Writer.below]

end Step

end ViewBinding.Code
