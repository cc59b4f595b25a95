import Mathlib.Data.List.TakeDrop

/-!
# Cutting a text at its first stop

A text whose characters pass a test, in front of one that does not go on with such a character, is
cut off there again. So two texts made this way are equal only part by part.

* `span_append`: the cut.
* `append_inj_of_stop`, `append_inj_of_mark`: equal texts are cut alike.
* `intercalate_inj`: so are equal lists, written with a separator that begins with a mark.
-/

namespace ViewBinding.Text

variable {p : Char → Bool}

/-- A text is cut where the test fails for the first time. -/
theorem span_append {cs rest : List Char} (h : ∀ c ∈ cs, p c = true)
    (hrest : ∀ c ∈ rest.head?, p c = false) : (cs ++ rest).span p = (cs, rest) := by
  rw [List.span_eq_takeWhile_dropWhile, List.takeWhile_append_of_pos h,
    List.dropWhile_append_of_pos h]
  cases rest with
  | nil => simp
  | cons c rest => simp [hrest c rfl]

variable {a b s t u v : String}

/-- Equal texts are cut alike. -/
theorem append_inj_of_stop (ha : ∀ c ∈ a.toList, p c = true) (hb : ∀ c ∈ b.toList, p c = true)
    (hs : ∀ c ∈ s.toList.head?, p c = false) (ht : ∀ c ∈ t.toList.head?, p c = false)
    (h : a ++ s = b ++ t) : a = b ∧ s = t := by
  have hspan := congrArg (fun text => text.toList.span p) h
  simp only [String.toList_append] at hspan
  rw [span_append ha hs, span_append hb ht] at hspan
  obtain ⟨hfront, hrest⟩ := Prod.mk.inj hspan
  exact ⟨String.toList_inj.mp hfront, String.toList_inj.mp hrest⟩

theorem pass_of_not_mem {mark : Char} (h : mark ∉ a.toList) :
    ∀ c ∈ a.toList, (c != mark) = true := fun _ hc =>
  bne_iff_ne.mpr fun heq => h (heq ▸ hc)

theorem stop_of_head {mark : Char} (h : u.toList.head? = some mark) (s : String) :
    ∀ c ∈ (u ++ s).toList.head?, (c != mark) = false := fun c hc => by
  rw [String.toList_append, List.head?_append, h] at hc
  obtain rfl : mark = c := Option.some.inj hc
  exact bne_self_eq_false mark

/-- Equal texts are cut alike at a mark that stands in neither of the parts before it. -/
theorem append_inj_of_mark (mark : Char) (ha : mark ∉ a.toList) (hb : mark ∉ b.toList)
    (hu : u.toList.head? = some mark) (hv : v.toList.head? = some mark)
    (h : a ++ (u ++ s) = b ++ (v ++ t)) : a = b ∧ u ++ s = v ++ t :=
  append_inj_of_stop (pass_of_not_mem ha) (pass_of_not_mem hb) (stop_of_head hu s)
    (stop_of_head hv t) h

/-! ## Lists -/

/-- What a list goes on with behind its first item. -/
def listTail (sep : String) : List String → String
  | [] => ""
  | item :: items => sep ++ sep.intercalate (item :: items)

theorem intercalate_cons (sep item : String) (items : List String) :
    sep.intercalate (item :: items) = item ++ listTail sep items := by
  cases items with
  | nil => simp [listTail]
  | cons next rest => rw [String.intercalate_cons_cons, listTail, String.append_assoc]

/-- Equal lists, written with a separator that begins with a mark, have equal items, if no item is
empty or holds the mark. -/
theorem intercalate_inj (mark : Char) {sep : String} (hsep : sep.toList.head? = some mark)
    {xs ys : List String} (hx : ∀ x ∈ xs, x ≠ "" ∧ mark ∉ x.toList)
    (hy : ∀ y ∈ ys, y ≠ "" ∧ mark ∉ y.toList) (h : sep.intercalate xs = sep.intercalate ys) :
    xs = ys := by
  have hne : sep ≠ "" := by
    rintro rfl
    cases hsep
  -- What follows an item is nothing or a separator, so its first character is the mark.
  have hstop (items : List String) :
      ∀ c ∈ (listTail sep items).toList.head?, (c != mark) = false := by
    intro c hc
    cases items with
    | nil => cases hc
    | cons item items => exact stop_of_head hsep _ c hc
  induction xs generalizing ys with
  | nil =>
    cases ys with
    | nil => rfl
    | cons y ys =>
      rw [intercalate_cons, String.intercalate_nil, eq_comm, String.append_eq_empty_iff] at h
      exact absurd h.1 (hy y List.mem_cons_self).1
  | cons x xs ih =>
    obtain ⟨⟨hxne, hxmark⟩, hxs⟩ := List.forall_mem_cons.mp hx
    cases ys with
    | nil =>
      rw [intercalate_cons, String.intercalate_nil, String.append_eq_empty_iff] at h
      exact absurd h.1 hxne
    | cons y ys =>
      obtain ⟨⟨-, hymark⟩, hys⟩ := List.forall_mem_cons.mp hy
      rw [intercalate_cons, intercalate_cons] at h
      obtain ⟨rfl, htail⟩ :=
        append_inj_of_stop (pass_of_not_mem hxmark) (pass_of_not_mem hymark) (hstop xs) (hstop ys) h
      cases xs <;> cases ys
      · rfl
      · exact absurd (String.append_eq_empty_iff.mp htail.symm).1 hne
      · exact absurd (String.append_eq_empty_iff.mp htail).1 hne
      · rw [ih hxs hys (String.append_right_inj _ |>.mp htail)]

end ViewBinding.Text
