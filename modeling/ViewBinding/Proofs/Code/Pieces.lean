import ViewBinding.Proofs.Code.Guards
import ViewBinding.Proofs.Code.Rows

/-!
# The lines that a program writes

What a program writes is a sequence of strokes, each at a number of guards: that is said without
a writer. On a sink that takes every piece the strokes fill the rows of a sheet, which are the
lines of the text.

* `Op.marks`: the strokes of a program.
* `Guarded.Draws.run`: every operation makes its strokes.
* `segments_runAll`: the lines of the text that a whole program writes.
-/

namespace ViewBinding.Code

open ViewBinding.Text

variable {σ : Type}

/-! ## The strokes of a program -/

/-- The texts that are written. -/
def Output.texts : Output → List String
  | .text t | .line t | .comment t => [t]
  | .format parts | .formatLine parts => parts
  | .blankLine => []

namespace Op

mutual

/-- The guards that are alive after an operation that goes through. -/
def aliveAfter (alive : List Keeper) : Op → List Keeper
  | .output _ => alive
  | .take place => .place place :: alive
  | .drop place => alive.erase (.place place)
  | .block _ _ owned body =>
    ((aliveAfterAll (.block :: alive) body).filter (· ∉ owned.map .place)).erase .block

/-- The guards that are alive after operations that go through. -/
def aliveAfterAll (alive : List Keeper) : List Op → List Keeper
  | [] => alive
  | op :: rest => aliveAfterAll (aliveAfter alive op) rest

end

mutual

/-- The strokes of an operation, each at the number of guards that are alive then. -/
def marks (alive : List Keeper) : Op → List Mark
  | .output o => o.strokes.map (alive.length, ·)
  | .take _ | .drop _ => []
  | .block header trailer owned body =>
    -- The closing brace stands at the guards that outlive the body, which may have dropped others.
    let after := aliveAfter alive (.block header trailer owned body)
    (openStrokes header).map (alive.length, ·) ++
      (marksAll (.block :: alive) body ++ (closeStrokes trailer).map (after.length, ·))

/-- The strokes of several operations. -/
def marksAll (alive : List Keeper) : List Op → List Mark
  | [] => []
  | op :: rest => marks alive op ++ marksAll (aliveAfter alive op) rest

end

mutual

/-- The texts that a program writes, without the braces of its blocks. -/
def texts : Op → List String
  | .output o => o.texts
  | .take _ | .drop _ => []
  | .block header trailer _ body => header :: trailer :: textsAll body

/-- The texts that several operations write. -/
def textsAll : List Op → List String
  | [] => []
  | op :: rest => texts op ++ textsAll rest

end

end Op

/-! ## Operations on a sink that takes every piece -/

namespace Guarded

/-- What is held is the text of the rows, there are as many levels as guards, and these guards are
`alive`. -/
structure Draws (text : σ → String) (unit : String) (g : Guarded σ) (sheet : Sheet)
    (alive : List Keeper) : Prop where
  shows : g.writer.Shows text unit sheet
  balanced : g.Balanced
  alive : g.alive = alive

section

variable {text : σ → String} {unit : String} {g : Guarded σ} {sheet : Sheet} {alive : List Keeper}

theorem Draws.take (h : g.Draws text unit sheet alive) (keeper : Keeper) :
    (g.take keeper).Draws text unit sheet (keeper :: alive) where
  shows := ⟨h.shows.units, h.shows.holds, h.shows.start⟩
  balanced := h.balanced.take keeper
  alive := congrArg (keeper :: ·) h.alive

theorem shows_drop (h : g.writer.Shows text unit sheet) (keeper : Keeper) :
    (g.drop keeper).writer.Shows text unit sheet := by
  unfold Guarded.drop
  split
  · exact ⟨h.units, h.holds, h.start⟩
  · exact h

theorem Draws.drop (h : g.Draws text unit sheet alive) (keeper : Keeper) :
    (g.drop keeper).Draws text unit sheet (alive.erase keeper) where
  shows := shows_drop h.shows keeper
  balanced := h.balanced.drop keeper
  alive := by rw [alive_drop, h.alive]

theorem Draws.leave (h : g.Draws text unit sheet alive) (owned : List Nat) :
    (g.leave owned).Draws text unit sheet (alive.filter (· ∉ owned.map .place)) where
  shows := leave_induction (P := fun g => g.writer.Shows text unit sheet) h.shows
    (fun _ keeper hg => shows_drop hg keeper) owned
  balanced := h.balanced.leave owned
  alive := by rw [alive_leave, h.alive]

variable {sink : Sink σ}

/-- Whatever is written is written at the guards that are alive. -/
theorem Draws.writes (hrec : sink.Records text) (h : g.Draws text unit sheet alive)
    {strokes : List Stroke} {attempt : Writer σ → Attempt σ}
    (hattempt : ∀ w, attempt w = w.putAll sink strokes) :
    (g.writes attempt).2 = true ∧
      (g.writes attempt).1.Draws text unit (sheet.addAll (strokes.map (alive.length, ·)))
        alive := by
  obtain ⟨hok, hshows⟩ := h.shows.putAll hrec strokes
  -- By the balance, the level that is written at is the number of guards.
  rw [h.balanced.level, h.alive] at hshows
  refine ⟨by rwa [Guarded.writes, hattempt], ?_, h.balanced.writes fun w => ?_, h.alive⟩
  · rwa [Guarded.writes, hattempt]
  · rw [hattempt, w.level_putAll]

mutual

/-- An operation succeeds and makes its strokes. -/
theorem Draws.run (hrec : sink.Records text) {g : Guarded σ} {sheet : Sheet}
    {alive : List Keeper} (h : g.Draws text unit sheet alive) (op : Op) :
    (op.run sink g).2 = true ∧
      (op.run sink g).1.Draws text unit (sheet.addAll (op.marks alive)) (op.aliveAfter alive) := by
  cases op with
  | output o =>
    rw [Op.run, Op.marks, Op.aliveAfter]
    exact h.writes hrec fun w => o.put_eq sink w
  | take place =>
    rw [Op.run, Op.marks, Op.aliveAfter]
    exact ⟨rfl, h.take (.place place)⟩
  | drop place =>
    rw [Op.run, Op.marks, Op.aliveAfter]
    exact ⟨rfl, h.drop (.place place)⟩
  | block header trailer owned body =>
    obtain ⟨hheader, hhead⟩ := h.writes hrec fun w => w.openBlock_eq sink header
    obtain ⟨hbody, hinside⟩ := (hhead.take .block).runBody hrec body
    have hclosed := ((hinside.leave owned).drop .block).writes hrec
      fun w => w.closeBlock_eq sink trailer
    rw [Op.run, Turn.andThen, if_pos hheader, Turn.andThen, if_pos hbody, Op.marks,
      Sheet.addAll_append, Sheet.addAll_append, Op.aliveAfter]
    exact hclosed

/-- A body makes all its strokes. -/
theorem Draws.runBody (hrec : sink.Records text) {g : Guarded σ} {sheet : Sheet}
    {alive : List Keeper} (h : g.Draws text unit sheet alive) (body : List Op) :
    (Op.runBody sink g body).2 = true ∧
      (Op.runBody sink g body).1.Draws text unit (sheet.addAll (Op.marksAll alive body))
        (Op.aliveAfterAll alive body) := by
  cases body with
  | nil =>
    rw [Op.runBody, Op.marksAll, Op.aliveAfterAll]
    exact ⟨rfl, h⟩
  | cons op rest =>
    obtain ⟨hok, hdraws⟩ := h.run hrec op
    rw [Op.runBody, Turn.andThen, if_pos hok, Op.marksAll, Sheet.addAll_append, Op.aliveAfterAll]
    exact hdraws.runBody hrec rest

end

theorem Draws.runAll (hrec : sink.Records text) (h : g.Draws text unit sheet alive)
    (ops : List Op) :
    (Op.runAll sink g ops).2 = true ∧
      (Op.runAll sink g ops).1.Draws text unit (sheet.addAll (Op.marksAll alive ops))
        (Op.aliveAfterAll alive ops) := by
  induction ops generalizing g sheet alive with
  | nil => exact ⟨rfl, h⟩
  | cons op rest ih =>
    obtain ⟨hok, hdraws⟩ := h.run hrec op
    obtain ⟨hrest, hall⟩ := ih hdraws
    rw [Op.marksAll, Sheet.addAll_append]
    exact ⟨Bool.and_eq_true_iff.mpr ⟨hok, hrest⟩, hall⟩

end

end Guarded

/-! ## Lines of the text -/

theorem Output.keepsLine_strokes {o : Output} (h : ∀ t ∈ o.texts, OneLine t) :
    ∀ stroke ∈ o.strokes, stroke.KeepsLine := by
  cases o with
  | text t => simpa [texts, strokes, Stroke.KeepsLine] using h
  | format parts =>
    have hjoin : OneLine (String.join parts) := oneLine_join h
    simpa [strokes, Stroke.KeepsLine] using hjoin
  | line t => simpa [texts, strokes, Stroke.KeepsLine] using h
  | formatLine parts =>
    have hjoin : OneLine (String.join parts) := oneLine_join h
    have hempty : OneLine "" := List.not_mem_nil
    simpa [strokes, Stroke.KeepsLine, hempty] using hjoin
  | blankLine => simp [strokes, Stroke.KeepsLine]
  | comment t =>
    have hslashes : OneLine "// " := by decide
    simpa [texts, strokes, Stroke.KeepsLine, hslashes] using h

theorem keepsLine_openStrokes {header : String} (h : OneLine header) :
    ∀ stroke ∈ openStrokes header, stroke.KeepsLine := by
  have hbrace : OneLine " \x7b" := by decide
  simp [openStrokes, Stroke.KeepsLine, h, hbrace]

theorem keepsLine_closeStrokes {trailer : String} (h : OneLine trailer) :
    ∀ stroke ∈ closeStrokes trailer, stroke.KeepsLine := by
  have hbrace : OneLine "\x7d" := by decide
  simp [closeStrokes, Stroke.KeepsLine, h, hbrace]

namespace Op

mutual

theorem keepsLine_marks (alive : List Keeper) (op : Op) (h : ∀ t ∈ op.texts, OneLine t) :
    ∀ mark ∈ op.marks alive, mark.2.KeepsLine := by
  cases op with
  | output o =>
    rw [texts] at h
    rw [marks, List.forall_mem_map]
    exact Output.keepsLine_strokes h
  | take place => rw [marks]; exact nofun
  | drop place => rw [marks]; exact nofun
  | block header trailer owned body =>
    rw [texts, List.forall_mem_cons, List.forall_mem_cons] at h
    obtain ⟨hheader, htrailer, hbody⟩ := h
    rw [marks, List.forall_mem_append, List.forall_mem_append, List.forall_mem_map,
      List.forall_mem_map]
    exact ⟨keepsLine_openStrokes hheader, keepsLine_marksAll (.block :: alive) body hbody,
      keepsLine_closeStrokes htrailer⟩

theorem keepsLine_marksAll (alive : List Keeper) (ops : List Op)
    (h : ∀ t ∈ textsAll ops, OneLine t) :
    ∀ mark ∈ marksAll alive ops, mark.2.KeepsLine := by
  cases ops with
  | nil => rw [marksAll]; exact nofun
  | cons op rest =>
    rw [textsAll, List.forall_mem_append] at h
    rw [marksAll, List.forall_mem_append]
    exact ⟨keepsLine_marks alive op h.1, keepsLine_marksAll (op.aliveAfter alive) rest h.2⟩

end

end Op

/-- On a sink that takes every piece a whole program succeeds. Its strokes fill rows, and each line
of the text is its row laid out: behind the blank pieces that come first stands the indentation of
the guards that are alive at the first piece that is not blank. -/
theorem segments_runAll {sink : Sink σ} {text : σ → String} (hrec : sink.Records text) (held : σ)
    (hheld : text held = "") (unit : String) (ops : List Op) (hunit : OneLine unit)
    (hops : ∀ t ∈ Op.textsAll ops, OneLine t) :
    let written := Op.runAll sink { writer := { held, unit } } ops
    written.2 = true ∧ written.1.alive = Op.aliveAfterAll [] ops ∧
      segments '\n' (text written.1.writer.held).toList =
        (Sheet.addAll {} (Op.marksAll [] ops)).rows.map fun row => (row.layOut unit).toList := by
  intro written
  have hfresh : (⟨{ held, unit }, [], []⟩ : Guarded σ).Draws text unit {} [] :=
    ⟨⟨rfl, hheld, rfl⟩, ⟨rfl, nofun⟩, rfl⟩
  obtain ⟨hok, hdraws⟩ := hfresh.runAll hrec ops
  refine ⟨hok, hdraws.alive, ?_⟩
  -- No piece breaks a line, so the rows are what stands between the line feeds.
  have hempty : ∀ row ∈ ({} : Sheet).rows, ∀ piece ∈ row, OneLine piece.2 := by simp [Sheet.rows]
  have hpieces := Sheet.oneLine_addAll hempty (Op.keepsLine_marksAll [] ops hops)
  exact (congrArg (segments '\n' ·.toList) hdraws.shows.holds).trans
    (Sheet.segments_print hunit hpieces)

/-- Blanks in front, guards that come and go within a line, and a block that begins inside one. -/
theorem segments_runAll_mixedLines :
    let ops : List Op := [.take 0, .output (.text " "), .take 1, .drop 0, .take 1,
      .output (.text "a"), .drop 1, .output (.format [" ", "b "]),
      .block "h" ";" [2] [.take 2, .output (.comment "c"), .output (.text "\t"), .output .blankLine,
        .drop 1, .output (.text "x")]]
    let written := Op.runAll Sink.page { writer := { held := "", unit := "--" } } ops
    (OneLine "--" ∧ ∀ t ∈ Op.textsAll ops, OneLine t) ∧ written.2 = true ∧
      segments '\n' written.1.writer.held.toList =
        [" ----a b h \x7b", "------// c", "\t", "----x\x7d;", ""].map String.toList := by
  intro ops written
  have hunit : OneLine "--" := by decide
  have hops : ∀ t ∈ Op.textsAll ops, OneLine t := by decide +kernel
  have hlines := segments_runAll Sink.page_records "" rfl "--" ops hunit hops
  exact ⟨⟨hunit, hops⟩, hlines.1, hlines.2.2.trans (by decide +kernel)⟩

end ViewBinding.Code
