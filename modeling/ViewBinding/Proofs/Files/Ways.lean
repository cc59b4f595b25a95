import Mathlib.Data.List.Infix
import ViewBinding.Proofs.Files.Places

/-!
# Ways through a tree of files

The way to a place is clear if at each place on it there is nothing yet, or a directory, and open if
there are directories all along. A plain path is followed through open directories, and where the
way is clear the missing ones can be made. That puts directories where there was nothing, and no
more.

* `FileTree.followAll_of_open`: following names through directories.
* `FileTree.MadeAlong`: a tree before and after the directories on a way were made.
* `FileTree.makeDirs_of_clear`: they can be made where the way is clear.
-/

namespace ViewBinding

open Text

namespace FileTree

variable {t t' : FileTree} {place rest above other : Trail} {name : List Char} {p : Path}

/-! ## Entries -/

theorem entry?_of_plain (t : FileTree) (h : place.IsPlain) (hne : place ≠ []) :
    t.entry? place = t.entries.get? place.key := by
  unfold entry?
  rw [h.isAbove_eq_false hne, if_neg Bool.false_ne_true]

theorem get?_put (t : FileTree) (place : Trail) (e : FileEntry) (key : String) :
    (t.put place e).entries.get? key = if key = place.key then some e else t.entries.get? key :=
  SortedMap.get?_insert

/-- An entry leaves those at other places as they are. -/
theorem entry?_put_of_ne (e : FileEntry) (hplain : place.IsPlain) (hne : place ≠ [])
    (hother : other.IsPlain) (h : other ≠ place) :
    entry? (t.put place e) other = t.entry? other := by
  by_cases hnil : other = []
  · rw [hnil]
    rfl
  · rw [entry?_of_plain _ hother hnil, entry?_of_plain _ hother hnil, get?_put, if_neg]
    exact fun hkey => h (hother.key_inj hplain hnil hne hkey)

/-- Another directory does not hide those there are. -/
theorem entry?_put_directory (h : t.entry? above = some .directory) :
    entry? (t.put place .directory) above = some .directory := by
  unfold entry? at h ⊢
  split
  · rfl
  · next habove =>
    rw [if_neg habove] at h
    rw [get?_put, h]
    split <;> rfl

/-! ## Ways -/

/-- At the place and at each one above it there is nothing yet, or a directory. -/
def Clear (t : FileTree) (place : Trail) : Prop :=
  ∀ above ∈ place.tails, t.entry? above = none ∨ t.entry? above = some .directory

instance (t : FileTree) (place : Trail) : Decidable (t.Clear place) :=
  inferInstanceAs (Decidable (∀ above ∈ place.tails, _))

/-- At the place and at each one above it there is a directory. -/
def Open (t : FileTree) (place : Trail) : Prop :=
  ∀ above ∈ place.tails, t.entry? above = some .directory

instance (t : FileTree) (place : Trail) : Decidable (t.Open place) :=
  inferInstanceAs (Decidable (∀ above ∈ place.tails, _))

theorem open_nil (t : FileTree) : t.Open [] := by
  intro above habove
  rw [List.tails, List.mem_singleton] at habove
  rw [habove]
  rfl

/-- A place is open if its entry and all places above are. -/
theorem open_of_tail (hentry : t.entry? place = some .directory) (h : t.Open place.tail) :
    t.Open place := by
  cases place with
  | nil => exact t.open_nil
  | cons name rest =>
    rw [Open, List.tails, List.forall_mem_cons]
    exact ⟨hentry, h⟩

theorem Open.mono (h : t.Open place) (hsub : above <:+ place) : t.Open above :=
  fun other hother => h other ((List.mem_tails _ _).mpr
    (((List.mem_tails _ _).mp hother).trans hsub))

theorem Clear.mono (h : t.Clear place) (hsub : above <:+ place) : t.Clear above :=
  fun other hother => h other ((List.mem_tails _ _).mpr
    (((List.mem_tails _ _).mp hother).trans hsub))

theorem Clear.entry? (h : t.Clear place) :
    t.entry? place = none ∨ t.entry? place = some .directory :=
  h place ((List.mem_tails _ _).mpr List.suffix_rfl)

theorem Open.entry? (h : t.Open place) : t.entry? place = some .directory :=
  h place ((List.mem_tails _ _).mpr List.suffix_rfl)

theorem followAll_reverse_cons (t : FileTree) (name : List Char) (rest : Trail) :
    t.followAll (name :: rest).reverse =
      t.followAll rest.reverse >>= fun place => t.follow place name := by
  simp [followAll, List.foldlM_append]

theorem follow_of_isName (hname : Trail.IsName name) (h : t.entry? place = some .directory) :
    t.follow place name = .ok (name :: place) := by
  simp [follow, h, hname.idle, hname.dots, hname.long]

/-- Names are followed through open directories. -/
theorem followAll_of_open (hplain : place.IsPlain) (h : t.Open place.tail) :
    t.followAll place.reverse = .ok place := by
  induction place with
  | nil => rfl
  | cons name rest ih =>
    have hrest : t.Open rest := h
    rw [followAll_reverse_cons,
      ih (hplain.mono (List.suffix_cons name rest)) (hrest.mono (List.tail_suffix rest))]
    exact follow_of_isName (hplain name List.mem_cons_self) hrest.entry?

/-- A way that is clear is open to its end, or a directory is missing. -/
theorem followAll_of_clear (hplain : place.IsPlain) (h : t.Clear place.tail) :
    t.Open place.tail ∨ t.followAll place.reverse = .error .missing := by
  induction place with
  | nil => exact .inl t.open_nil
  | cons name rest ih =>
    have hclear : t.Clear rest := h
    have hrest := hplain.mono (List.suffix_cons name rest)
    rw [followAll_reverse_cons]
    rcases ih hrest (hclear.mono (List.tail_suffix rest)) with hopen | hmissing
    · rcases hclear.entry? with hnone | hdirectory
      · refine .inr ?_
        rw [followAll_of_open hrest hopen]
        simp [bind, Except.bind, follow, hnone]
      · exact .inl (open_of_tail hdirectory hopen)
    · rw [hmissing]
      exact .inr rfl

/-! ## Plain paths -/

section

variable (hs : p.Spells place) (hne : place ≠ [])

include hs hne

theorem resolve_of_spells (t : FileTree) : t.resolve p = t.followAll place.reverse := by
  simp only [resolve, hs.pathFault?_eq_none hne, hs.segments_eq hne]

theorem resolveNew_of_spells (t : FileTree) : t.resolveNew p = t.followAll place.reverse := by
  obtain ⟨name, rest, rfl⟩ := List.exists_cons_of_ne_nil hne
  have hname : name.isEmpty = false := by
    simpa using (hs.plain name List.mem_cons_self).ne_nil
  have hkeep : (name :: rest).dropWhile List.isEmpty = name :: rest :=
    List.dropWhile_cons_of_neg (by simp [hname])
  simp only [resolveNew, hs.pathFault?_eq_none hne, hs.segments_eq hne, List.reverse_reverse,
    hkeep]

end

theorem withDir_of_none (hs : p.Spells place) (hne : place ≠ []) (hopen : t.Open place.tail)
    (hnone : t.entry? place = none) : t.withDir p = .ok (t.put place .directory) := by
  rw [withDir_eq_ok_iff]
  refine ⟨place, ?_, hnone, rfl⟩
  rw [resolveNew_of_spells hs hne, followAll_of_open hs.plain hopen]

theorem isDirectory_of_open (hs : p.Spells place) (hne : place ≠ []) (hopen : t.Open place) :
    t.isDirectory p = true := by
  simp [isDirectory, resolve_of_spells hs hne,
    followAll_of_open hs.plain (hopen.mono (List.tail_suffix place)), hopen.entry?]

theorem withDir_of_open (hs : p.Spells place) (hne : place ≠ []) (hopen : t.Open place) :
    t.withDir p = .error .alreadyThere := by
  simp [withDir, resolveNew_of_spells hs hne,
    followAll_of_open hs.plain (hopen.mono (List.tail_suffix place)), hopen.entry?]

/-! ## Making directories -/

/-- The text is that of a place on the way to this one, behind the working directory. -/
def OnWay (place : Trail) (key : String) : Prop :=
  ∃ above : Trail, above ≠ [] ∧ above <:+ place ∧ key = above.key

theorem OnWay.mono {key : String} (h : OnWay rest key) (hsub : rest <:+ place) :
    OnWay place key := by
  obtain ⟨above, hne, habove, hkey⟩ := h
  exact ⟨above, hne, habove.trans hsub, hkey⟩

/-- There is a directory at each place on an open way. -/
theorem Open.get?_of_onWay {key : String} (h : t.Open place) (hplain : place.IsPlain)
    (hway : OnWay place key) : t.entries.get? key = some .directory := by
  obtain ⟨above, hne, habove, rfl⟩ := hway
  rw [← entry?_of_plain t (hplain.mono habove) hne]
  exact h above ((List.mem_tails _ _).mpr habove)

/-- A tree before and after the directories on the way to a place were made. -/
structure MadeAlong (place : Trail) (t t' : FileTree) : Prop where
  opened : t'.Open place
  others : ∀ key, t'.entries.get? key = t.entries.get? key ∨
    t'.entries.get? key = some .directory ∧ t.entries.get? key = none ∧ OnWay place key

theorem madeAlong_of_open (h : t.Open place) : MadeAlong place t t :=
  ⟨h, fun _ => .inl rfl⟩

/-- The last directory is there. -/
theorem MadeAlong.of_directory (h : MadeAlong rest t t')
    (hentry : t'.entry? (name :: rest) = some .directory) : MadeAlong (name :: rest) t t' where
  opened := open_of_tail hentry h.opened
  others key := (h.others key).imp_right fun ⟨hnow, hbefore, hway⟩ =>
    ⟨hnow, hbefore, hway.mono (List.suffix_cons name rest)⟩

/-- The last directory is put where there was nothing. -/
theorem MadeAlong.put (h : MadeAlong rest t t') (hplain : Trail.IsPlain (name :: rest))
    (hnone : t'.entry? (name :: rest) = none) :
    MadeAlong (name :: rest) t (t'.put (name :: rest) .directory) where
  opened := by
    refine open_of_tail ?_ fun above habove => entry?_put_directory (h.opened above habove)
    rw [entry?_of_plain _ hplain (List.cons_ne_nil _ _), get?_put, if_pos rfl]
  others key := by
    rw [entry?_of_plain _ hplain (List.cons_ne_nil _ _)] at hnone
    rw [get?_put]
    by_cases hkey : key = Trail.key (name :: rest)
    · subst hkey
      refine .inr ⟨if_pos rfl, ?_, _, List.cons_ne_nil _ _, List.suffix_rfl, rfl⟩
      rcases h.others (Trail.key (name :: rest)) with hsame | ⟨hnow, -⟩
      · rw [← hsame, hnone]
      · rw [hnone] at hnow
        cases hnow
    · rw [if_neg hkey]
      exact (h.others key).imp_right fun ⟨hnow, hbefore, hway⟩ =>
        ⟨hnow, hbefore, hway.mono (List.suffix_cons name rest)⟩

/-- The entry of a place is the same when only the directories above it were made. -/
theorem MadeAlong.entry?_eq (h : MadeAlong rest t t') (hplain : place.IsPlain)
    (hsub : rest <:+ place) (hne : rest ≠ place) : t'.entry? place = t.entry? place := by
  by_cases hnil : place = []
  · subst hnil
    rfl
  · rw [entry?_of_plain _ hplain hnil, entry?_of_plain _ hplain hnil]
    refine (h.others place.key).resolve_right ?_
    rintro ⟨-, -, above, habove, hway, hkey⟩
    obtain rfl := hplain.key_inj (hplain.mono (hway.trans hsub)) hnil habove hkey
    exact hne (hsub.eq_of_length_le hway.length_le)

/-- Where the way is clear, the directories on it are made. -/
theorem makeDirs_of_clear (hs : p.Spells place) (h : t.Clear place) :
    ∃ t', t.makeDirs p = (.ok (), t') ∧ MadeAlong place t t' := by
  induction place generalizing p with
  | nil =>
    have hempty : p.text.isEmpty = true := by
      rw [String.isEmpty_iff, ← String.toList_eq_nil_iff, hs.text]
      rfl
    rw [makeDirs, if_pos hempty]
    exact ⟨t, rfl, madeAlong_of_open t.open_nil⟩
  | cons name rest ih =>
    have hne : name :: rest ≠ [] := List.cons_ne_nil _ _
    have hrest : t.Clear rest := h.mono (List.suffix_cons name rest)
    rw [makeDirs, if_neg (by simp [hs.isEmpty_eq_false hne])]
    rcases followAll_of_clear hs.plain hrest with hopen | hmissing
    · rcases h.entry? with hnone | hdirectory
      · rw [withDir_of_none hs hne hopen hnone]
        exact ⟨_, rfl, (madeAlong_of_open hopen).put hs.plain hnone⟩
      · have hall := open_of_tail hdirectory hopen
        rw [withDir_of_open hs hne hall]
        simp only [isDirectory_of_open hs hne hall, if_true]
        exact ⟨t, rfl, madeAlong_of_open hall⟩
    · have hdir : t.withDir p = .error .missing := by
        simp only [withDir, resolveNew_of_spells hs hne, hmissing]
      obtain ⟨above, hparent, habove⟩ := hs.parent?
      obtain ⟨t₁, hmade, halong⟩ := ih habove hrest
      have hentry := halong.entry?_eq hs.plain (List.suffix_cons name rest) (by simp)
      rw [hdir]
      simp only
      split
      · next hnone => cases hparent.symm.trans hnone
      · next found hfound =>
        obtain rfl := Option.some.inj (hfound.symm.trans hparent)
        rw [hmade]
        simp only
        rcases h.entry? with hnone | hdirectory
        · rw [← hentry] at hnone
          rw [withDir_of_none hs hne halong.opened hnone]
          exact ⟨_, rfl, halong.put hs.plain hnone⟩
        · -- The directory was there all the same, though the way to it was not.
          rw [← hentry] at hdirectory
          have hall := open_of_tail hdirectory halong.opened
          rw [withDir_of_open hs hne hall]
          simp only [isDirectory_of_open hs hne hall, if_true]
          exact ⟨t₁, rfl, halong.of_directory hdirectory⟩

end FileTree

end ViewBinding
