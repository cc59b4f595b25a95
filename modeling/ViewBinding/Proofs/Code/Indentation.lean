import ViewBinding.Proofs.Code.Lines
import ViewBinding.Proofs.Text.Lines
import ViewBinding.Proofs.Text.Segments

/-!
# Printed lines and the lines of a text

A line of a program is printed as one line of the text, unless its own text is broken. If each line
stands at the level of the braces that are open above it, the text is indented by their depth.

* `Line.Levels`: lines that stand at the depth of the braces around them.
* `Line.hasLine_printAll`: each line of the text comes from one that was printed.
* `Line.StandsAt.of_oneLine`, `Line.StandsAt.of_broken`: what it looks like.
* `Line.segments_printAll`: all lines there are, from the first to the last.
* `Line.count_printAll`: how many they are.
-/

namespace ViewBinding.Code.Line

open Text

variable {indent : Nat} {l : Line} {ls ms : List Line} {depth between after : Int}
  {before part line : List Char}

/-- So many blanks. -/
def blanks (indent : Nat) : String :=
  String.ofList (List.replicate indent ' ')

theorem toList_indentation (level : Nat) :
    (indentation (blanks indent) level).toList = List.replicate (indent * level) ' ' := by
  induction level with
  | zero => rfl
  | succ level ih =>
    rw [indentation_succ, String.toList_append, ih, blanks, String.toList_ofList,
      List.replicate_append_replicate, Nat.mul_succ, Nat.add_comm]

theorem toList_print :
    (l.print (blanks indent)).toList =
      (List.replicate (indent * l.level) ' ' ++ l.text.toList) ++ ['\n'] := by
  rw [print, String.toList_append, String.toList_append, toList_indentation]
  rfl

theorem not_mem_replicate_blank {n : Nat} : '\n' ∉ List.replicate n ' ' := fun h =>
  absurd (List.eq_of_mem_replicate h) (by decide)

/-! ## Levels -/

/-- The line stands where so many braces are open: a line that closes one of them is a level up, and
an empty line is not indented. -/
def StandsAt (depth : Int) (l : Line) : Prop :=
  (l.level = 0 ∧ l.text = "") ∨
    ∃ c ∈ l.text.toList.head?, c ≠ ' ' ∧ depth = l.level + if c = '}' then 1 else 0

/-- The lines stand where the braces in those above them put them. The depth goes from `depth` to
`after`. -/
inductive Levels : Int → List Line → Int → Prop
  | nil {depth : Int} : Levels depth [] depth
  | cons {depth after : Int} {l : Line} {ls : List Line} (stands : l.StandsAt depth)
      (rest : Levels (depth + braceDepth l.text.toList) ls after) : Levels depth (l :: ls) after

theorem Levels.append (h : Levels depth ls between) (h' : Levels between ms after) :
    Levels depth (ls ++ ms) after := by
  induction h with
  | nil => exact h'
  | cons stands rest ih => exact .cons stands (ih h')

/-- One more line above, by what it opens and closes. -/
theorem Levels.cons_of_eq (between : Int) (h : l.StandsAt depth)
    (hopen : braceDepth l.text.toList = between - depth) (hrest : Levels between ls after) :
    Levels depth (l :: ls) after := by
  refine .cons h ?_
  rwa [hopen, add_sub_cancel]

/-- The indentation of a line leaves its braces as they are. -/
theorem braceDepth_print :
    braceDepth (l.print (blanks indent)).toList = braceDepth l.text.toList := by
  have hblank : Braceless (List.replicate (indent * l.level) ' ') := fun c hc => by
    rw [List.eq_of_mem_replicate hc]
    decide
  have hend : braceDepth ['\n'] = 0 := by decide
  rw [toList_print, braceDepth_append, braceDepth_append, hblank.braceDepth, hend, zero_add,
    add_zero]

/-- Each line stands at the depth of the text above it. -/
theorem Levels.standsAt (h : Levels depth (ls ++ l :: ms) after) :
    l.StandsAt (depth + braceDepth (printAll (blanks indent) ls).toList) := by
  -- The depth at which a line stands is carried through the lines above it.
  induction ls generalizing depth with
  | nil =>
    cases h with
    | cons stands _ => simpa [printAll_nil, braceDepth] using stands
  | cons first ls ih =>
    cases h with
    | cons _ rest =>
      have hstands := ih rest
      rwa [printAll_cons, String.toList_append, braceDepth_append, braceDepth_print,
        ← add_assoc]

/-! ## Lines of the text -/

/-- Each line of the text comes from a line that was printed. -/
theorem hasLine_printAll (h : HasLine (printAll (blanks indent) ls).toList before line) :
    ∃ above l below part, ls = above ++ l :: below ∧
      before = (printAll (blanks indent) above).toList ++ part ∧
      HasLine (l.print (blanks indent)).toList part line := by
  induction ls generalizing before with
  | nil =>
    obtain ⟨after, hstop⟩ := h.stop
    simp [printAll_nil] at hstop
  | cons l ls ih =>
    rw [printAll_cons, String.toList_append] at h
    -- Each print ends a line, so no line of the text spans two of them.
    rcases hasLine_append (by simp [toList_print]) h with hline | ⟨more, rfl, hline⟩
    · exact ⟨[], l, ls, before, rfl, rfl, hline⟩
    · obtain ⟨above, l', below, part, rfl, rfl, hpart⟩ := ih hline
      refine ⟨l :: above, l', below, part, rfl, ?_, hpart⟩
      rw [printAll_cons, String.toList_append, List.append_assoc]

/-- What is printed for a line is indented by the depth at which it stands. -/
theorem StandsAt.indented {c : Char} {rest : List Char} (h : l.StandsAt (braceDepth before))
    (hhead : l.text.toList.head? = some c) :
    Indented indent before (List.replicate (indent * l.level) ' ' ++ c :: rest) := by
  rcases h with ⟨-, hempty⟩ | ⟨c', hc', hblank, hdepth⟩
  · rw [hempty] at hhead
    cases hhead
  · obtain rfl : c = c' := Option.some.inj (hhead.symm.trans hc')
    exact ⟨l.level, c, rest, rfl, hblank, by rw [hdepth, add_sub_cancel_right]⟩

/-- A line without a break is one line of the text. -/
theorem StandsAt.of_oneLine (h : l.StandsAt (braceDepth before)) (hone : OneLine l.text)
    (hline : HasLine (l.print (blanks indent)).toList part line) (hne : line ≠ []) :
    part = [] ∧ Indented indent before line := by
  have hbreak : '\n' ∉ List.replicate (indent * l.level) ' ' ++ l.text.toList :=
    fun hmem => (List.mem_append.mp hmem).elim not_mem_replicate_blank hone
  rw [toList_print] at hline
  obtain ⟨rfl, rfl⟩ := hasLine_concat hbreak hline
  refine ⟨rfl, ?_⟩
  cases htext : l.text.toList with
  | cons c rest => exact h.indented (by rw [htext]; rfl)
  | nil =>
    rcases h with ⟨hlevel, -⟩ | ⟨c, hc, -⟩
    · rw [hlevel, htext] at hne
      exact absurd rfl hne
    · rw [htext] at hc
      cases hc

/-- A line that is broken in one place only is indented at its beginning. -/
theorem StandsAt.of_broken {front inner back : String} (h : l.StandsAt (braceDepth before))
    (htext : l.text = front ++ (inner ++ back)) (hfront : OneLine front) (hback : OneLine back)
    (hne : front ≠ "") (hline : HasLine (l.print (blanks indent)).toList part line) :
    (part = [] ∧ Indented indent before line) ∨
      ∃ t u, inner.toList = t ++ '\n' :: u ∧
        part = List.replicate (indent * l.level) ' ' ++ front.toList ++ (t ++ ['\n']) := by
  have hbreak : '\n' ∉ List.replicate (indent * l.level) ' ' ++ front.toList :=
    fun hmem => (List.mem_append.mp hmem).elim not_mem_replicate_blank hfront
  -- The break is in the inner part, so what stands before it begins one line of the text.
  have hprint : (l.print (blanks indent)).toList =
      (List.replicate (indent * l.level) ' ' ++ front.toList) ++
        (inner.toList ++ (back.toList ++ ['\n'])) := by
    simp only [toList_print, htext, String.toList_append, List.append_assoc]
  rw [hprint] at hline
  refine (hasLine_of_inner hbreak hback hline).imp_left fun ⟨hpart, hprefix⟩ => ⟨hpart, ?_⟩
  obtain ⟨more, rfl⟩ := hprefix
  cases hlist : front.toList with
  | nil => exact absurd (String.toList_eq_nil_iff.mp hlist) hne
  | cons c rest =>
    rw [List.append_assoc]
    exact h.indented (by rw [htext, String.toList_append, hlist]; rfl)

/-! ## All lines there are -/

/-- The lines of text that a line takes behind its blanks: one, and more where it is broken. -/
def laidOut (indent : Nat) (l : Line) : List (List Char) :=
  segments '\n' (List.replicate (indent * l.level) ' ' ++ l.text.toList)

/-- The text has the lines of what was printed, and nothing behind its last line feed. -/
theorem segments_printAll :
    segments '\n' (printAll (blanks indent) ls).toList = ls.flatMap (laidOut indent) ++ [[]] := by
  induction ls with
  | nil => rfl
  | cons l ls ih =>
    rw [printAll_cons, String.toList_append, toList_print, List.append_assoc,
      List.singleton_append, segments_append_sep, ih, ← laidOut, List.flatMap_cons,
      List.append_assoc]

/-! ## How many lines there are -/

theorem getLast?_printAll (hne : ls ≠ []) :
    (printAll (blanks indent) ls).toList.getLast? = some '\n' := by
  induction ls with
  | nil => exact absurd rfl hne
  | cons l ls ih =>
    rw [printAll_cons, String.toList_append, List.getLast?_append]
    cases ls with
    | nil => rw [printAll_nil, toList_print, List.getLast?_concat]; rfl
    | cons l' ls =>
      rw [ih (List.cons_ne_nil _ _)]
      rfl

/-- How many lines of text the lines take: each ends once, and once more for each break in it. -/
def textLines (ls : List Line) : Nat :=
  (ls.map fun l => l.text.toList.count '\n' + 1).sum

theorem textLines_append : textLines (ls ++ ms) = textLines ls + textLines ms := by
  rw [textLines, List.map_append, List.sum_append_nat, ← textLines, ← textLines]

theorem textLines_cons : textLines (l :: ls) = l.text.toList.count '\n' + 1 + textLines ls := by
  rw [textLines, List.map_cons, List.sum_cons, ← textLines]

/-- Lines without breaks are as many in the text. -/
theorem textLines_of_oneLine (h : ∀ l ∈ ls, OneLine l.text) : textLines ls = ls.length := by
  induction ls with
  | nil => rfl
  | cons l ls ih =>
    obtain ⟨hl, hls⟩ := List.forall_mem_cons.mp h
    rw [textLines_cons, List.count_eq_zero_of_not_mem hl, ih hls, List.length_cons]
    omega

/-- The line feeds of the text count its lines. -/
theorem count_printAll :
    (printAll (blanks indent) ls).toList.count '\n' = textLines ls := by
  induction ls with
  | nil => rfl
  | cons l ls ih =>
    have hend : ['\n'].count '\n' = 1 := rfl
    rw [printAll_cons, String.toList_append, toList_print, List.count_append, List.count_append,
      List.count_append, List.count_eq_zero_of_not_mem not_mem_replicate_blank, Nat.zero_add, ih,
      hend, textLines_cons]

end ViewBinding.Code.Line
