/-!
# Texts in segments

A dotted name is a list of segments, a path a list of steps. Cutting a text at a separator never
loses a character.

* `joinWith_segments`: joining the segments gives the text back.
* `not_mem_of_mem_segments`: no segment holds the separator.
* `length_joinWith_append`: parts joined are no longer than the whole joined.
* `segments_append_cons`: a separator ends the segments before it.
-/

namespace ViewBinding.Text

/-- The pieces of a text between the occurrences of `sep`; always at least one. -/
def segments (sep : Char) : List Char → List (List Char)
  | [] => [[]]
  | c :: cs =>
    if c = sep then [] :: segments sep cs
    else
      match segments sep cs with
      | [] => [[c]]
      | piece :: pieces => (c :: piece) :: pieces

/-- The pieces, with `sep` between any two neighbours. -/
def joinWith (sep : Char) : List (List Char) → List Char
  | [] => []
  | [piece] => piece
  | piece :: next :: pieces => piece ++ sep :: joinWith sep (next :: pieces)

theorem segments_ne_nil (sep : Char) (cs : List Char) : segments sep cs ≠ [] := by
  cases cs with
  | nil => simp [segments]
  | cons c cs =>
    simp only [segments]
    split
    · simp
    · split <;> simp

theorem joinWith_segments (sep : Char) (cs : List Char) : joinWith sep (segments sep cs) = cs := by
  induction cs with
  | nil => rfl
  | cons c cs ih =>
    have hne := segments_ne_nil sep cs
    simp only [segments]
    cases hs : segments sep cs with
    | nil => exact absurd hs hne
    | cons piece pieces =>
      rw [hs] at ih
      split
      · next h => subst h; simp [joinWith, ih]
      · cases pieces with
        | nil => simpa [joinWith] using ih
        | cons next rest => simpa [joinWith] using ih

theorem not_mem_of_mem_segments {sep : Char} {cs piece : List Char}
    (h : piece ∈ segments sep cs) : sep ∉ piece := by
  induction cs generalizing piece with
  | nil => simp only [segments, List.mem_singleton] at h; simp [h]
  | cons c cs ih =>
    simp only [segments] at h
    split at h
    · rcases List.mem_cons.mp h with rfl | h
      · simp
      · exact ih h
    · next hc =>
      split at h
      · simp only [List.mem_singleton] at h
        subst h
        simpa using fun h => hc h.symm
      · next first rest hs =>
        rcases List.mem_cons.mp h with rfl | h
        · have : sep ∉ first := ih (by simp [hs])
          simpa [this] using fun h => hc h.symm
        · exact ih (by simp [hs, h])

theorem segments_of_not_mem {sep : Char} {cs : List Char} (h : sep ∉ cs) :
    segments sep cs = [cs] := by
  induction cs with
  | nil => rfl
  | cons c cs ih =>
    simp only [List.mem_cons, not_or] at h
    simp [segments, ih h.2, Ne.symm h.1]

theorem segments_append_cons {sep : Char} {cs rest : List Char} (h : sep ∉ cs) :
    segments sep (cs ++ sep :: rest) = cs :: segments sep rest := by
  induction cs with
  | nil => simp [segments]
  | cons c cs ih =>
    simp only [List.mem_cons, not_or] at h
    simp [segments, ih h.2, Ne.symm h.1]

theorem length_joinWith_append (sep : Char) (xs ys : List (List Char)) :
    (joinWith sep xs).length + (joinWith sep ys).length ≤
      (joinWith sep (xs ++ ys)).length := by
  induction xs with
  | nil => simp [joinWith]
  | cons x xs ih =>
    cases xs with
    | nil => cases ys <;> simp [joinWith]
    | cons x' xs => simp only [joinWith, List.cons_append, List.length_append,
        List.length_cons] at ih ⊢; omega

theorem length_joinWith_le_of_isPrefix (sep : Char) {xs ys : List (List Char)} (h : xs <+: ys) :
    (joinWith sep xs).length ≤ (joinWith sep ys).length := by
  obtain ⟨zs, rfl⟩ := h
  have := length_joinWith_append sep xs zs
  omega

/-- The part of a text before the last occurrence of `sep`, and the part after it. -/
def splitLast? (sep : Char) (cs : List Char) : Option (List Char × List Char) :=
  match (segments sep cs).reverse with
  | last :: previous :: before => some (joinWith sep (previous :: before).reverse, last)
  | _ => none

/-- What follows `start`, if the text begins with it. -/
def dropPrefix? : List Char → List Char → Option (List Char)
  | [], cs => some cs
  | _ :: _, [] => none
  | p :: ps, c :: cs => if p = c then dropPrefix? ps cs else none

theorem dropPrefix?_eq_some_iff {start cs rest : List Char} :
    dropPrefix? start cs = some rest ↔ cs = start ++ rest := by
  induction start generalizing cs with
  | nil => simp [dropPrefix?, eq_comm]
  | cons p ps ih =>
    cases cs with
    | nil => simp [dropPrefix?]
    | cons c cs =>
      by_cases h : p = c
      · simp [dropPrefix?, h, ih]
      · simp [dropPrefix?, h, Ne.symm h]

theorem isSome_dropPrefix?_iff {start cs : List Char} :
    (dropPrefix? start cs).isSome = true ↔ start <+: cs := by
  rw [Option.isSome_iff_exists]
  exact exists_congr fun rest => dropPrefix?_eq_some_iff.trans eq_comm

end ViewBinding.Text
