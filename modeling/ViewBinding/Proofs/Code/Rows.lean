import ViewBinding.Proofs.Code.Strokes
import ViewBinding.Proofs.Code.Lines
import ViewBinding.Text.Segments

/-!
# Rows of pieces

On a sink that takes every piece, strokes fill rows, and each row is a line of the text, indented at
its first piece that is not blank.

* `Row.layOut`: the line that a row gives.
* `Sheet.segments_print`: the rows are the lines of their text.
* `Writer.Shows.put`: one stroke keeps what is held in step with the rows.
* `Writer.Shows.putAll`: so do several.
-/

namespace ViewBinding.Code

open ViewBinding.Text

variable {σ : Type}

/-! ## Rows -/

/-- The pieces that a line receives, each with the number of guards alive when it is written. -/
abbrev Row := List (Nat × String)

namespace Row

/-- The pieces as they are. -/
def text (row : Row) : String :=
  String.join (row.map Prod.snd)

/-- Every piece is blank. -/
def isBlank (row : Row) : Bool :=
  row.all fun piece => isBlankText piece.2

/-- The indentation at the first piece. -/
def indentation (unit : String) : Row → String
  | [] => ""
  | (guards, _) :: _ => Line.indentation unit guards

/-- The line: the blank pieces before the first that is not blank, the indentation at that one, and
it with all pieces behind it. -/
def layOut (unit : String) (row : Row) : String :=
  let blanks : Row := row.takeWhile fun piece => isBlankText piece.2
  let rest : Row := row.dropWhile fun piece => isBlankText piece.2
  blanks.text ++ rest.indentation unit ++ rest.text

theorem text_cons (piece : Nat × String) (row : Row) :
    text (piece :: row) = piece.2 ++ row.text := by
  rw [text, List.map_cons, String.join_cons, ← text]

theorem text_concat (row : Row) (guards : Nat) (piece : String) :
    text (row ++ [(guards, piece)]) = row.text ++ piece := by
  simp [text, String.join_append]

theorem isBlank_cons (piece : Nat × String) (row : Row) :
    isBlank (piece :: row) = (isBlankText piece.2 && row.isBlank) := rfl

theorem isBlank_concat (row : Row) (guards : Nat) (piece : String) :
    isBlank (row ++ [(guards, piece)]) = (row.isBlank && isBlankText piece) := by
  simp [isBlank]

theorem layOut_cons_of_blank {unit : String} {piece : Nat × String} {row : Row}
    (h : isBlankText piece.2 = true) :
    layOut unit (piece :: row) = piece.2 ++ row.layOut unit := by
  simp only [layOut, List.takeWhile_cons, List.dropWhile_cons, h, if_true, text_cons,
    String.append_assoc]

theorem layOut_cons_of_not_blank {unit : String} {piece : Nat × String} {row : Row}
    (h : isBlankText piece.2 = false) :
    layOut unit (piece :: row) = Line.indentation unit piece.1 ++ text (piece :: row) := by
  simp [layOut, h, indentation, text]

/-- One more piece: it is indented if it is the first that is not blank. -/
theorem layOut_concat (unit : String) (row : Row) (guards : Nat) (piece : String) :
    layOut unit (row ++ [(guards, piece)]) =
      row.layOut unit ++
        if row.isBlank && !isBlankText piece then Line.indentation unit guards ++ piece
        else piece := by
  induction row with
  | nil => cases h : isBlankText piece <;> simp [layOut, isBlank, indentation, text, h]
  | cons first row ih =>
    cases h : isBlankText first.2 with
    | true =>
      rw [List.cons_append, layOut_cons_of_blank h, layOut_cons_of_blank h, ih,
        String.append_assoc, isBlank_cons, h, Bool.true_and]
    | false =>
      rw [List.cons_append, layOut_cons_of_not_blank h, layOut_cons_of_not_blank h, isBlank_cons, h,
        Bool.false_and, Bool.false_and, if_neg Bool.false_ne_true, ← List.cons_append, text_concat,
        String.append_assoc]

end Row

theorem oneLine_join {texts : List String} (h : ∀ t ∈ texts, OneLine t) :
    OneLine (String.join texts) := by
  induction texts with
  | nil => exact List.not_mem_nil
  | cons t rest ih =>
    obtain ⟨ht, hrest⟩ := List.forall_mem_cons.mp h
    rw [String.join_cons]
    exact ht.append (ih hrest)

theorem oneLine_indentation {unit : String} (h : OneLine unit) (level : Nat) :
    OneLine (Line.indentation unit level) :=
  oneLine_join fun _ ht => List.eq_of_mem_replicate ht ▸ h

theorem Row.oneLine_layOut {unit : String} {row : Row} (hunit : OneLine unit)
    (h : ∀ piece ∈ row, OneLine piece.2) : OneLine (row.layOut unit) := by
  induction row with
  | nil => exact List.not_mem_nil
  | cons piece row ih =>
    obtain ⟨hpiece, hrow⟩ := List.forall_mem_cons.mp h
    cases hblank : isBlankText piece.2 with
    | true =>
      rw [layOut_cons_of_blank hblank]
      exact hpiece.append (ih hrow)
    | false =>
      rw [layOut_cons_of_not_blank hblank]
      exact (oneLine_indentation hunit piece.1).append
        (oneLine_join (List.forall_mem_map.mpr h))

/-- The stroke does not break the line by its text. -/
def Stroke.KeepsLine : Stroke → Prop
  | .text t => OneLine t
  | .feed => True

/-! ## Sheets -/

/-- A stroke and the number of guards alive when it is made. -/
abbrev Mark := Nat × Stroke

/-- Rows of pieces: those that are finished, and the one that strokes go to. -/
structure Sheet where
  finished : List Row := []
  current : Row := []

namespace Sheet

/-- Makes a stroke: a text goes behind the current row, and a feed finishes it. -/
def add (sheet : Sheet) : Mark → Sheet
  | (guards, .text t) => { sheet with current := sheet.current ++ [(guards, t)] }
  | (_, .feed) => { finished := sheet.finished ++ [sheet.current], current := [] }

/-- Makes all strokes. -/
def addAll (sheet : Sheet) (marks : List Mark) : Sheet :=
  marks.foldl add sheet

theorem addAll_append (sheet : Sheet) (marks more : List Mark) :
    sheet.addAll (marks ++ more) = (sheet.addAll marks).addAll more :=
  List.foldl_append

/-- The rows, finished or not. -/
def rows (sheet : Sheet) : List Row :=
  sheet.finished ++ [sheet.current]

/-- The text of all rows. -/
def print (unit : String) (sheet : Sheet) : String :=
  String.join (sheet.finished.map fun row => row.layOut unit ++ "\n") ++ sheet.current.layOut unit

theorem print_cons (unit : String) (row : Row) (finished : List Row) (current : Row) :
    print unit ⟨row :: finished, current⟩ =
      row.layOut unit ++ ("\n" ++ print unit ⟨finished, current⟩) := by
  simp only [print, List.map_cons, String.join_cons, String.append_assoc]

theorem print_text (unit : String) (sheet : Sheet) (guards : Nat) (t : String) :
    (sheet.add (guards, .text t)).print unit =
      sheet.print unit ++
        if sheet.current.isBlank && !isBlankText t then Line.indentation unit guards ++ t
        else t := by
  simp only [print, add, Row.layOut_concat, String.append_assoc]

theorem print_feed (unit : String) (sheet : Sheet) (guards : Nat) :
    (sheet.add (guards, .feed)).print unit = sheet.print unit ++ "\n" := by
  simp [print, add, String.join_append, Row.layOut, Row.text, Row.indentation, String.append_assoc]

/-- The pieces of the rows hold no more line feeds than the strokes that put them there. -/
theorem oneLine_addAll {sheet : Sheet} {marks : List Mark}
    (h : ∀ row ∈ sheet.rows, ∀ piece ∈ row, OneLine piece.2)
    (hmarks : ∀ mark ∈ marks, mark.2.KeepsLine) :
    ∀ row ∈ (sheet.addAll marks).rows, ∀ piece ∈ row, OneLine piece.2 := by
  induction marks generalizing sheet with
  | nil => exact h
  | cons mark rest ih =>
    obtain ⟨hmark, hrest⟩ := List.forall_mem_cons.mp hmarks
    refine ih ?_ hrest
    rw [rows, List.forall_mem_append, List.forall_mem_singleton] at h ⊢
    obtain ⟨guards, stroke⟩ := mark
    cases stroke with
    | text t => exact ⟨h.1, List.forall_mem_append.mpr ⟨h.2, List.forall_mem_singleton.mpr hmark⟩⟩
    | feed => exact ⟨List.forall_mem_append.mpr ⟨h.1, List.forall_mem_singleton.mpr h.2⟩, nofun⟩

/-- Where no piece holds a line feed, the rows are the lines of the text. -/
theorem segments_print {unit : String} {sheet : Sheet} (hunit : OneLine unit)
    (h : ∀ row ∈ sheet.rows, ∀ piece ∈ row, OneLine piece.2) :
    segments '\n' (sheet.print unit).toList =
      sheet.rows.map fun row => (row.layOut unit).toList := by
  obtain ⟨finished, current⟩ := sheet
  -- Each finished row ends at the first line feed that is left.
  induction finished with
  | nil =>
    have hone := Row.oneLine_layOut hunit (h current (List.mem_singleton_self current))
    simpa [print, rows] using segments_of_not_mem hone
  | cons row finished ih =>
    obtain ⟨hrow, hrest⟩ := List.forall_mem_cons.mp h
    have hone := Row.oneLine_layOut hunit hrow
    rw [print_cons, String.toList_append, String.toList_append]
    exact (segments_append_cons hone).trans (congrArg _ (ih hrest))

end Sheet

/-! ## A writer on a sink that takes every piece -/

/-- A sink that never fails: it takes every piece, and `text` is what it holds. -/
structure Sink.Records (sink : Sink σ) (text : σ → String) : Prop where
  takes : ∀ held piece, (sink.offer held piece).2 = true
  holds : ∀ held piece, text (sink.offer held piece).1 = text held ++ piece

theorem Sink.page_records : Sink.page.Records id :=
  ⟨fun _ _ => rfl, fun _ _ => rfl⟩

namespace Writer

/-- The attempt succeeds and adds a text to what is held. -/
def Adds (text : σ → String) (w : Writer σ) (a : Attempt σ) (added : String) (atLineStart : Bool) :
    Prop :=
  ∃ held, a = ({ w with held, atLineStart }, true) ∧ text held = text w.held ++ added

/-- What is held is the text of the rows, and a line is at its start as long as it is blank. -/
structure Shows (text : σ → String) (unit : String) (w : Writer σ) (sheet : Sheet) : Prop where
  units : w.unit = unit
  holds : text w.held = sheet.print unit
  start : w.atLineStart = sheet.current.isBlank

section

variable {sink : Sink σ} {text : σ → String} (hrec : sink.Records text)
include hrec

theorem adds_offer (w : Writer σ) (piece : String) :
    w.Adds text (w.offer sink piece) piece w.atLineStart := by
  refine ⟨(sink.offer w.held piece).1, ?_, hrec.holds w.held piece⟩
  rw [offer, hrec.takes]

theorem adds_offerUnits (w : Writer σ) (n : Nat) :
    w.Adds text (w.offerUnits sink n) (Line.indentation w.unit n) w.atLineStart := by
  induction n generalizing w with
  | zero => exact ⟨w.held, rfl, String.append_empty.symm⟩
  | succ n ih =>
    obtain ⟨held, hoffer, hheld⟩ := adds_offer hrec w w.unit
    obtain ⟨held', hunits, hheld'⟩ := ih { w with held }
    refine ⟨held', ?_, ?_⟩
    · rw [offerUnits, hoffer]
      exact hunits
    · rw [hheld', hheld, Line.indentation_succ, String.append_assoc]

theorem adds_write (w : Writer σ) (t : String) :
    w.Adds text (w.write sink t)
      (if w.atLineStart && !isBlankText t then Line.indentation w.unit w.level ++ t else t)
      (w.atLineStart && isBlankText t) := by
  by_cases hempty : t = ""
  · subst hempty
    exact ⟨w.held, by simp [write], by simp⟩
  -- Only the first text of a line that is not blank has the units of the level before it.
  cases hstart : w.atLineStart && !isBlankText t with
  | true =>
    obtain ⟨held, hunits, hheld⟩ := adds_offerUnits hrec w w.level
    obtain ⟨held', hoffer, hheld'⟩ := adds_offer hrec { w with held, atLineStart := false } t
    have hblank : (w.atLineStart && isBlankText t) = false := by grind
    refine ⟨held', ?_, ?_⟩
    · simp [write, hempty, hstart, startLine, hunits, Attempt.andThen, hoffer, hblank]
    · rw [hheld', hheld, if_pos rfl, String.append_assoc]
  | false =>
    obtain ⟨held, hoffer, hheld⟩ := adds_offer hrec w t
    have hblank : (w.atLineStart && isBlankText t) = w.atLineStart := by grind
    refine ⟨held, ?_, by rw [hheld]; rfl⟩
    simp [write, hempty, hstart, hoffer, hblank]

theorem adds_newline (w : Writer σ) : w.Adds text (w.newline sink) "\n" true := by
  obtain ⟨held, hoffer, hheld⟩ := adds_offer hrec w "\n"
  exact ⟨held, by rw [newline, hoffer]; rfl, hheld⟩

/-- One stroke goes to the rows as it goes to the sink. -/
theorem Shows.put {unit : String} {w : Writer σ} {sheet : Sheet} (h : w.Shows text unit sheet)
    (stroke : Stroke) :
    (stroke.put sink w).2 = true ∧
      (stroke.put sink w).1.Shows text unit (sheet.add (w.level, stroke)) := by
  obtain ⟨hunit, htext, hstart⟩ := h
  cases stroke with
  | text t =>
    obtain ⟨held, hwrite, hheld⟩ := adds_write hrec w t
    rw [Stroke.put, hwrite]
    refine ⟨rfl, hunit, ?_, ?_⟩
    · rw [Sheet.print_text, ← htext, hheld, hunit, hstart]
    · rw [Sheet.add, Row.isBlank_concat, hstart]
  | feed =>
    obtain ⟨held, hfeed, hheld⟩ := adds_newline hrec w
    rw [Stroke.put, hfeed]
    refine ⟨rfl, hunit, ?_, rfl⟩
    rw [Sheet.print_feed, ← htext, hheld]

theorem Shows.putAll {unit : String} {w : Writer σ} {sheet : Sheet} (h : w.Shows text unit sheet)
    (strokes : List Stroke) :
    (w.putAll sink strokes).2 = true ∧
      (w.putAll sink strokes).1.Shows text unit (sheet.addAll (strokes.map (w.level, ·))) := by
  induction strokes generalizing w sheet with
  | nil => exact ⟨rfl, h⟩
  | cons stroke rest ih =>
    obtain ⟨hok, hshows⟩ := h.put hrec stroke
    -- Strokes leave the level alone, so all of them are marked with the one at the start.
    have hlevel : (stroke.put sink w).1.level = w.level := by
      rw [← putAll_singleton, level_putAll]
    rw [Writer.putAll, Attempt.andThen, if_pos hok]
    have hrest := ih hshows
    rwa [hlevel] at hrest

end

end Writer

end ViewBinding.Code
