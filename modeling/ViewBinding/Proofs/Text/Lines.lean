import ViewBinding.Proofs.Text.Delimiters

/-!
# Lines of a text

A line of a text is what stands between two line feeds, with the text before it. The lines of a
text that is put together are those of its parts, as long as each part ends a line.

* `HasLine`: a line, and the text before it.
* `Indented`: a line whose blanks tell the depth of the braces around it.
* `hasLine_append`: the lines of two texts, one below the other.
* `hasLine_of_inner`: the lines of a text that is broken in one place only.
-/

namespace ViewBinding.Text

/-- The line stands in the text behind `before`, which ends a line if there is any of it, and ends
with the next line feed. -/
structure HasLine (text before line : List Char) : Prop where
  start : ∀ c ∈ before.getLast?, c = '\n'
  stop : ∃ after, text = before ++ (line ++ '\n' :: after)
  single : '\n' ∉ line

/-- The line begins with so many blanks for each brace that is open before it, and then with
something else. A line that begins with a closing brace stands where the brace was opened. -/
def Indented (indent : Nat) (before line : List Char) : Prop :=
  ∃ (depth : Nat) (c : Char) (rest : List Char),
    line = List.replicate (indent * depth) ' ' ++ c :: rest ∧ c ≠ ' ' ∧
      (depth : Int) = braceDepth before - if c = '}' then 1 else 0

variable {mark : Char} {front inner back before line xs ys rest : List Char}

/-- A mark that a text holds stands behind a front that does not hold it. -/
theorem exists_append_of_not_mem (hfront : mark ∉ front)
    (h : front ++ xs = ys ++ mark :: rest) :
    ∃ more, ys = front ++ more ∧ xs = more ++ mark :: rest := by
  rcases List.append_eq_append_iff.mp h with ⟨more, hys, hxs⟩ | ⟨more, hcut, hxs⟩
  · exact ⟨more, hys, hxs⟩
  · cases more with
    | nil =>
      rw [List.append_nil] at hcut
      exact ⟨[], by rw [hcut, List.append_nil], hxs.symm⟩
    | cons c more =>
      obtain rfl := (List.cons.inj hxs).1
      exact absurd (by rw [hcut]; simp) hfront

/-- A text that ends a line may be followed by another one: the lines are those of both. -/
theorem hasLine_append (hx : xs.getLast? = some '\n') (h : HasLine (xs ++ ys) before line) :
    HasLine xs before line ∨ ∃ more, before = xs ++ more ∧ HasLine ys more line := by
  obtain ⟨hstart, ⟨after, hstop⟩, hsingle⟩ := h
  rcases List.append_eq_append_iff.mp hstop with ⟨more, rfl, hys⟩ | ⟨piece, rfl, hrest⟩
  · refine .inr ⟨more, rfl, fun c hc => hstart c ?_, ⟨after, hys⟩, hsingle⟩
    rw [List.getLast?_append, Option.mem_def.mp hc]
    rfl
  · rcases List.eq_nil_or_concat' piece with rfl | ⟨front, c, rfl⟩
    · have hys : ys = [] ++ (line ++ '\n' :: after) := hrest.symm
      exact .inr ⟨[], by rw [List.append_nil, List.append_nil], nofun, ⟨after, hys⟩, hsingle⟩
    · obtain rfl : c = '\n' := by simpa using hx
      have hend : line ++ '\n' :: after = front ++ '\n' :: ys := by simpa using hrest
      obtain ⟨more, rfl, hmore⟩ := exists_append_of_not_mem hsingle hend
      refine .inl ⟨hstart, ?_, hsingle⟩
      cases more with
      | nil => exact ⟨[], by simp⟩
      | cons c more =>
        obtain rfl := (List.cons.inj hmore).1
        exact ⟨more ++ ['\n'], by simp⟩

/-- The only line of a text that ends with its only line feed. -/
theorem hasLine_concat (h : '\n' ∉ xs) (hline : HasLine (xs ++ ['\n']) before line) :
    before = [] ∧ line = xs := by
  obtain ⟨hstart, ⟨after, hstop⟩, -⟩ := hline
  rw [← List.append_assoc] at hstop
  obtain ⟨more, hfront, hrest⟩ := exists_append_of_not_mem h hstop
  obtain ⟨rfl, -⟩ : more = [] ∧ after = [] := by
    cases more <;> simp_all
  rw [List.append_nil] at hfront
  subst hfront
  rcases List.eq_nil_or_concat' before with rfl | ⟨above, c, rfl⟩
  · exact ⟨rfl, rfl⟩
  · obtain rfl : c = '\n' := hstart c (by simp)
    exact absurd (by simp) h

/-- Nothing stands behind the line feed at the end of a text without another. -/
theorem append_ne_of_last (more : List Char) (hback : mark ∉ back) (hrest : rest ≠ []) :
    back ++ [mark] ≠ more ++ mark :: rest := fun h => by
  obtain ⟨front, -, hend⟩ := exists_append_of_not_mem hback h
  have hlength := congrArg List.length hend
  simp only [List.length_append, List.length_cons, List.length_nil] at hlength
  have hpos := List.length_pos_of_ne_nil hrest
  omega

/-- In a text that is broken inside only, a line begins with the text, or behind a break. -/
theorem hasLine_of_inner (hfront : '\n' ∉ front) (hback : '\n' ∉ back)
    (h : HasLine (front ++ (inner ++ (back ++ ['\n']))) before line) :
    (before = [] ∧ front <+: line) ∨
      ∃ t u, inner = t ++ '\n' :: u ∧ before = front ++ (t ++ ['\n']) := by
  obtain ⟨hstart, ⟨after, hstop⟩, -⟩ := h
  rcases List.eq_nil_or_concat' before with rfl | ⟨above, c, rfl⟩
  · obtain ⟨more, rfl, -⟩ := exists_append_of_not_mem hfront hstop
    exact .inl ⟨rfl, List.prefix_append _ _⟩
  · obtain rfl : c = '\n' := hstart c (by simp)
    have hline : line ++ '\n' :: after ≠ [] := by simp
    rw [List.append_assoc, List.singleton_append] at hstop
    obtain ⟨t, rfl, hrest⟩ := exists_append_of_not_mem hfront hstop
    rcases List.append_eq_append_iff.mp hrest with ⟨more, -, hmore⟩ | ⟨piece, rfl, hpiece⟩
    · exact absurd hmore (append_ne_of_last more hback hline)
    · cases piece with
      | nil => exact absurd hpiece.symm (append_ne_of_last [] hback hline)
      | cons c u =>
        obtain rfl := (List.cons.inj hpiece).1
        exact .inr ⟨t, u, rfl, List.append_assoc ..⟩

end ViewBinding.Text
