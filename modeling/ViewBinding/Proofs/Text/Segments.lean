import ViewBinding.Text.Segments

/-!
# Laws of cutting and joining

Joining at a separator and cutting at it undo each other, as long as no piece holds the separator.

* `segments_joinWith`: cutting what was joined gives the pieces back.
* `segments_append_sep`: the pieces of two texts with a separator between them.
* `splitLast?_of_segments`: the last piece, and what stands before it.
* `append_sep_inj`: a text can be read back from both sides of its last separator.
-/

namespace ViewBinding.Text

variable {sep : Char}

theorem joinWith_cons_of_ne_nil {piece : List Char} {pieces : List (List Char)} (h : pieces ≠ []) :
    joinWith sep (piece :: pieces) = piece ++ sep :: joinWith sep pieces := by
  cases pieces with
  | nil => exact absurd rfl h
  | cons next rest => rfl

/-- Pieces without the separator come back from the text that they were joined to. -/
theorem segments_joinWith {pieces : List (List Char)} (hne : pieces ≠ [])
    (h : ∀ piece ∈ pieces, sep ∉ piece) : segments sep (joinWith sep pieces) = pieces := by
  induction pieces with
  | nil => exact absurd rfl hne
  | cons piece rest ih =>
    obtain ⟨hpiece, hrest⟩ := List.forall_mem_cons.mp h
    cases rest with
    | nil => exact segments_of_not_mem hpiece
    | cons next rest =>
      rw [joinWith, segments_append_cons hpiece, ih (List.cons_ne_nil _ _) hrest]

theorem segments_append_sep (cs rest : List Char) :
    segments sep (cs ++ sep :: rest) = segments sep cs ++ segments sep rest := by
  induction cs with
  | nil => simp [segments]
  | cons c cs ih =>
    rw [List.cons_append, segments, segments, ih]
    split
    · rfl
    · cases hs : segments sep cs with
      | nil => exact absurd hs (segments_ne_nil sep cs)
      | cons piece pieces => rfl

theorem joinWith_append {xs ys : List (List Char)} (hx : xs ≠ []) (hy : ys ≠ []) :
    joinWith sep (xs ++ ys) = joinWith sep xs ++ sep :: joinWith sep ys := by
  induction xs with
  | nil => exact absurd rfl hx
  | cons x xs ih =>
    cases xs with
    | nil => rw [List.singleton_append, joinWith_cons_of_ne_nil hy, joinWith]
    | cons x' xs =>
      have hrest := ih (List.cons_ne_nil _ _)
      rw [List.cons_append, joinWith_cons_of_ne_nil (by simp), hrest, joinWith, List.append_assoc,
        List.cons_append]

/-- The first pieces joined are a beginning of all of them joined. -/
theorem joinWith_isPrefix {xs ys : List (List Char)} (h : xs <+: ys) :
    joinWith sep xs <+: joinWith sep ys := by
  obtain ⟨rest, rfl⟩ := h
  by_cases hx : xs = []
  · rw [hx]
    exact List.nil_prefix
  · by_cases hrest : rest = []
    · simp only [hrest, List.append_nil, List.prefix_rfl]
    · rw [joinWith_append hx hrest]
      exact List.prefix_append _ _

theorem mem_joinWith {c : Char} {pieces : List (List Char)} (h : c ∈ joinWith sep pieces) :
    c = sep ∨ ∃ piece ∈ pieces, c ∈ piece := by
  induction pieces with
  | nil => cases h
  | cons piece rest ih =>
    cases rest with
    | nil => exact .inr ⟨piece, List.mem_singleton.mpr rfl, h⟩
    | cons next rest =>
      rw [joinWith, List.mem_append, List.mem_cons] at h
      rcases h with h | h | h
      · exact .inr ⟨piece, List.mem_cons_self, h⟩
      · exact .inl h
      · rcases ih h with h | ⟨found, hfound, hc⟩
        · exact .inl h
        · exact .inr ⟨found, List.mem_cons_of_mem _ hfound, hc⟩

/-- A character of a text is the separator or stands in one of the pieces. -/
theorem mem_segments_of_mem {c : Char} {cs : List Char} (h : c ∈ cs) :
    c = sep ∨ ∃ piece ∈ segments sep cs, c ∈ piece := by
  rw [← joinWith_segments sep cs] at h
  exact mem_joinWith h

/-- The part after the last separator is the last piece, the part before it holds all others. -/
theorem splitLast?_of_segments {cs last : List Char} {before : List (List Char)}
    (h : segments sep cs = before ++ [last]) :
    splitLast? sep cs = if before = [] then none else some (joinWith sep before, last) := by
  rw [splitLast?, h, List.reverse_append, List.reverse_singleton, List.singleton_append]
  cases hb : before.reverse with
  | nil => simp [List.reverse_eq_nil_iff.mp hb]
  | cons previous rest =>
    have hne : before ≠ [] := fun hnil => by simp [hnil] at hb
    rw [if_neg hne, ← List.reverse_reverse before, hb]

/-- What stands on either side of the last separator is determined by the whole. -/
theorem append_sep_inj {cs cs' rest rest' : List Char} (h : sep ∉ rest) (h' : sep ∉ rest')
    (heq : cs ++ sep :: rest = cs' ++ sep :: rest') : cs = cs' ∧ rest = rest' := by
  have hpieces := congrArg (segments sep) heq
  rw [segments_append_sep, segments_append_sep, segments_of_not_mem h,
    segments_of_not_mem h'] at hpieces
  obtain ⟨hbefore, hlast⟩ := List.append_inj' hpieces rfl
  rw [List.singleton_inj] at hlast
  rw [← joinWith_segments sep cs, ← joinWith_segments sep cs', hbefore]
  exact ⟨rfl, hlast⟩

end ViewBinding.Text
