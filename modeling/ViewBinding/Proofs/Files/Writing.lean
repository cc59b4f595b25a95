import ViewBinding.Proofs.Files.Ways
import ViewBinding.Proofs.SortedMap
import ViewBinding.Proofs.Store.Mirror

/-!
# Writing into a tree of files

A text can be written at a plain path if its place is free: the way to it is clear, and at the place
there is nothing, or a file that can be reached. Making the directories above puts some where there
was nothing, and the text goes to its place alone. So a tree serves any paths that are free in it,
as long as none of them leads through another.

* `FileTree.exists_wrote`: a text is written at a free path, along with the directories above.
* `FileTree.text_of_free`: the text at a free path is that of the file at its place.
* `FileTree.Ready`: a tree that a run writes into.
* `FileTree.serves_system`: a tree serves free paths, and changes nothing else.
* `FileTree.Built.of_mem_changesSince`: what has changed after any number of texts.
-/

namespace ViewBinding

namespace FileTree

variable {t t' : FileTree} {place rest above other : Trail} {p : Path}

/-! ## Writing a text -/

/-- A text can be written at the place: the way is clear, and there is nothing, or a file that can
be reached. -/
structure Free (t : FileTree) (place : Trail) : Prop where
  clear : t.Clear place.tail
  file : t.entry? place ≠ some .directory
  reached : t.entry? place ≠ none → t.Open place.tail

instance (t : FileTree) (place : Trail) : Decidable (t.Free place) :=
  decidable_of_iff (t.Clear place.tail ∧ t.entry? place ≠ some .directory ∧
      (¬ t.entry? place = none → t.Open place.tail))
    ⟨fun ⟨clear, file, reached⟩ => ⟨clear, file, reached⟩, fun h => ⟨h.clear, h.file, h.reached⟩⟩

/-- A tree before and after a text was written at a place, along with the directories above. -/
structure Wrote (place : Trail) (text : String) (t t' : FileTree) : Prop where
  opened : t'.Open place.tail
  file : t'.entry? place = some (.file (some text))
  others : ∀ key, key ≠ place.key → t'.entries.get? key = t.entries.get? key ∨
    t'.entries.get? key = some .directory ∧ t.entries.get? key = none ∧ OnWay place.tail key

/-- A text goes to its place once the way there is open. -/
theorem withText_of_open (hs : p.Spells place) (hne : place ≠ []) (hopen : t.Open place.tail)
    (hfile : t.entry? place ≠ some .directory) (text : String) :
    t.withText p text = .ok (t.put place (.file (some text))) := by
  simp only [withText, resolve_of_spells hs hne, followAll_of_open hs.plain hopen]

/-- Making the directories above a free place and writing a text at it both succeed. -/
theorem exists_wrote (wording : FileFault → String) (hs : p.Spells place) (hne : place ≠ [])
    (h : t.Free place) (text : String) :
    ∃ made t', OutputDirectory.prepare (system wording) p t = (.ok (), made) ∧
      (system wording).write p text made = (.ok (), t') ∧ Wrote place text t t' := by
  obtain ⟨name, rest, rfl⟩ := List.exists_cons_of_ne_nil hne
  obtain ⟨above, hparent, habove⟩ := hs.parent?
  obtain ⟨made, hmade, halong⟩ := makeDirs_of_clear habove h.clear
  have hentry := halong.entry?_eq hs.plain (List.suffix_cons name rest) (by simp)
  have hfile : made.entry? (name :: rest) ≠ some .directory := by
    rw [hentry]
    exact h.file
  refine ⟨made, made.put (name :: rest) (.file (some text)), ?_, ?_, ?_, ?_, fun key hkey => ?_⟩
  · simp only [OutputDirectory.prepare, hparent, system, bind, StateT.bind, hmade]
    rfl
  · simp only [system, withText_of_open hs hne halong.opened hfile]
  · intro place' hplace'
    have hsub := (List.mem_tails _ _).mp hplace'
    have hother : place' ≠ name :: rest := by
      rintro rfl
      exact absurd hsub.length_le (by simp)
    rw [entry?_put_of_ne _ hs.plain hne (habove.plain.mono hsub) hother]
    exact halong.opened place' hplace'
  · rw [entry?_of_plain _ hs.plain hne, get?_put, if_pos rfl]
  · rw [get?_put, if_neg hkey]
    exact halong.others key

/-! ## What else changes -/

/-- A change that leaves a place alone or makes a directory there keeps a way clear. -/
theorem Clear.of_changes (h : t.Clear place)
    (hchange : ∀ above, above <:+ place →
      t'.entry? above = t.entry? above ∨ t'.entry? above = some .directory) : t'.Clear place := by
  intro above habove
  rcases hchange above ((List.mem_tails _ _).mp habove) with hsame | hdirectory
  · rw [hsame]
    exact h above habove
  · exact .inr hdirectory

/-- And it keeps a way open. -/
theorem Open.of_changes (h : t.Open place)
    (hchange : ∀ above, above <:+ place →
      t'.entry? above = t.entry? above ∨ t'.entry? above = some .directory) : t'.Open place := by
  intro above habove
  rcases hchange above ((List.mem_tails _ _).mp habove) with hsame | hdirectory
  · rw [hsame]
    exact h above habove
  · exact hdirectory

theorem Free.of_changes (h : t.Free place) (hentry : t'.entry? place = t.entry? place)
    (hchange : ∀ above, above <:+ place.tail →
      t'.entry? above = t.entry? above ∨ t'.entry? above = some .directory) : t'.Free place where
  clear := h.clear.of_changes hchange
  file := by
    rw [hentry]
    exact h.file
  reached := by
    rw [hentry]
    exact fun hsome => (h.reached hsome).of_changes hchange

/-- What is true of the entries under all texts is true of those at all plain places. -/
theorem entry?_of_get? (hplain : place.IsPlain)
    (h : t'.entries.get? place.key = t.entries.get? place.key ∨
      t'.entries.get? place.key = some .directory) :
    t'.entry? place = t.entry? place ∨ t'.entry? place = some .directory := by
  by_cases hnil : place = []
  · subst hnil
    exact .inl rfl
  · rwa [entry?_of_plain _ hplain hnil, entry?_of_plain _ hplain hnil]

/-- Making directories leaves what is below them free. -/
theorem MadeAlong.free (h : MadeAlong rest t t') (hplain : place.IsPlain) (hsub : rest <:+ place)
    (hne : rest ≠ place) (hfree : t.Free place) : t'.Free place := by
  refine hfree.of_changes (h.entry?_eq hplain hsub hne) fun above habove => ?_
  refine entry?_of_get? (hplain.mono (habove.trans (List.tail_suffix place))) ?_
  exact (h.others (Trail.key above)).imp_right And.left

section

variable {text : String} (h : Wrote place text t t') (hplain : place.IsPlain)

include h

/-- The place of the text itself is free for another one. -/
theorem Wrote.free : t'.Free place where
  clear above habove := .inr (h.opened above habove)
  file := by
    rw [h.file]
    simp
  reached _ := h.opened

include hplain

/-- Other places on the way of a text are left alone, or a directory is made there. -/
theorem Wrote.entry?_or (hother : other.IsPlain) (hne : other ≠ place) (hpos : place ≠ []) :
    t'.entry? other = t.entry? other ∨ t'.entry? other = some .directory := by
  by_cases hnil : other = []
  · subst hnil
    exact .inl rfl
  · have hkey : other.key ≠ place.key := fun heq => hne (hother.key_inj hplain hnil hpos heq)
    exact entry?_of_get? hother ((h.others other.key hkey).imp_right And.left)

/-- A place that the way of the text does not lead through is left alone. -/
theorem Wrote.entry?_eq (hother : other.IsPlain) (hbelow : ¬ place <:+ other)
    (habove : ¬ other <:+ place) : t'.entry? other = t.entry? other := by
  have hpos : place ≠ [] := fun hnil => hbelow (hnil ▸ List.nil_suffix)
  have hnil : other ≠ [] := fun hnil => habove (hnil ▸ List.nil_suffix)
  have hkey : other.key ≠ place.key := fun heq =>
    hbelow (hother.key_inj hplain hnil hpos heq ▸ List.suffix_rfl)
  rw [entry?_of_plain _ hother hnil, entry?_of_plain _ hother hnil]
  refine (h.others other.key hkey).resolve_right ?_
  rintro ⟨-, -, on, hon, hway, heq⟩
  have hsuffix := hway.trans (List.tail_suffix place)
  obtain rfl := hother.key_inj (hplain.mono hsuffix) hnil hon heq
  exact habove hsuffix

/-- Such a place stays free. -/
theorem Wrote.free_of_apart (hother : other.IsPlain) (hbelow : ¬ place <:+ other)
    (habove : ¬ other <:+ place) (hfree : t.Free other) : t'.Free other := by
  refine hfree.of_changes (h.entry?_eq hplain hother hbelow habove) fun above hway => ?_
  have hsuffix := hway.trans (List.tail_suffix other)
  refine h.entry?_or hplain (hother.mono hsuffix) ?_ fun hnil => hbelow (hnil ▸ List.nil_suffix)
  rintro rfl
  exact hbelow hsuffix

end

/-! ## Reading a text -/

/-- The text at a free path is that of the file at its place. -/
theorem text_of_free (hs : p.Spells place) (hne : place ≠ []) (h : t.Free place) {text : String} :
    t.text p = .ok text ↔ t.entry? place = some (.file (some text)) := by
  rw [text_eq_ok_iff, resolve_of_spells hs hne]
  constructor
  · rintro ⟨found, hfound, hentry⟩
    rcases followAll_of_clear hs.plain h.clear with hopen | hmissing
    · rw [followAll_of_open hs.plain hopen] at hfound
      cases hfound
      exact hentry
    · rw [hmissing] at hfound
      cases hfound
  · intro hentry
    have hopen := h.reached (by simp [hentry])
    exact ⟨place, followAll_of_open hs.plain hopen, hentry⟩

/-- The text of a file, if it can be read. -/
def text? (t : FileTree) (p : Path) : Option String :=
  (t.text p).toOption

theorem text?_eq_some_iff {text : String} : t.text? p = some text ↔ t.text p = .ok text := by
  unfold text?
  cases t.text p <;> simp [Except.toOption]

/-- Free places with one entry have one text. -/
theorem text?_congr (hs : p.Spells place) (hne : place ≠ []) (h : t.Free place)
    (h' : t'.Free place) (hentry : t'.entry? place = t.entry? place) : t'.text? p = t.text? p := by
  refine Option.ext fun text => ?_
  rw [text?_eq_some_iff, text?_eq_some_iff, text_of_free hs hne h', text_of_free hs hne h, hentry]

/-! ## Any number of texts -/

/-- The text is that of a place on the way to the home, or on the way to one of the paths. -/
def OnWays (home : Trail) (paths : List Path) (key : String) : Prop :=
  OnWay home key ∨ ∃ p ∈ paths, OnWay p.place.tail key

/-- A tree that a run writes into, at these paths below its home: the home is there, the paths are
free, and elsewhere only directories on the way to them have been made, where there was nothing
before. -/
structure Ready (before : FileTree) (home : Trail) (paths : List Path) (t : FileTree) : Prop where
  opened : t.Open home
  free : ∀ p ∈ paths, t.Free p.place
  others : ∀ key, (∀ p ∈ paths, key ≠ p.place.key) →
    t.entries.get? key = before.entries.get? key ∨
      t.entries.get? key = some .directory ∧ before.entries.get? key = none ∧
        OnWays home paths key

section

variable {before : FileTree} {home : Trail} {paths : List Path} (wording : FileFault → String)
  (hplain : ∀ p ∈ paths, p.IsPlain) (hbelow : ∀ p ∈ paths, home <:+ p.place.tail)

include hplain hbelow

/-- A tree in which paths below their home are free is ready for them once the home is made. -/
theorem ready_makeDirs {root : Path} (hs : root.Spells home) (hclear : before.Clear home)
    (hfree : ∀ p ∈ paths, before.Free p.place) :
    ((system wording).makeDirs root before).1 = .ok () ∧
      Ready before home paths ((system wording).makeDirs root before).2 := by
  obtain ⟨t, hmade, halong⟩ := makeDirs_of_clear hs hclear
  have hrun : (system wording).makeDirs root before = (.ok (), t) := by
    simp only [system, hmade]
    rfl
  rw [hrun]
  refine ⟨rfl, halong.opened, fun p hp => ?_, fun key _ => (halong.others key).imp_right fun h =>
    ⟨h.1, h.2.1, .inl h.2.2⟩⟩
  have hsub := hbelow p hp
  refine halong.free (hplain p hp).1 (hsub.trans (List.tail_suffix _)) ?_ (hfree p hp)
  rintro rfl
  have hlength := hsub.length_le
  have hpos := List.length_pos_of_ne_nil p.place_ne_nil
  rw [List.length_tail] at hlength
  omega

/-- A tree serves paths that are free in it, as long as none of them leads through another. -/
theorem serves_system (hapart : ∀ p ∈ paths, ∀ q ∈ paths, p.place <:+ q.place → p = q) :
    (system wording).Serves text? paths (Ready before home paths) := by
  intro p hp text t hready
  have hs := (hplain p hp).spells
  obtain ⟨made, t', hprepare, hwrite, hwrote⟩ :=
    exists_wrote wording hs p.place_ne_nil (hready.free p hp) text
  -- No other path leads through this one, so none of them is blocked by the new file.
  have hfree : ∀ q ∈ paths, t'.Free q.place := by
    intro q hq
    by_cases heq : q = p
    · exact heq ▸ hwrote.free
    · exact hwrote.free_of_apart hs.plain (hplain q hq).1
        (fun hsub => heq (hapart p hp q hq hsub).symm) (fun hsub => heq (hapart q hq p hp hsub))
        (hready.free q hq)
  refine ⟨t', ⟨⟨made, hprepare, hwrite⟩, fun q hq => ?_⟩, hwrote.opened.mono (hbelow p hp), hfree,
    fun key hkey => ?_⟩
  · by_cases heq : q = p
    · subst heq
      rw [if_pos rfl, text?_eq_some_iff, text_of_free hs q.place_ne_nil (hfree q hp)]
      exact hwrote.file
    · rw [if_neg heq]
      exact text?_congr (hplain q hq).spells q.place_ne_nil (hready.free q hq) (hfree q hq)
        (hwrote.entry?_eq hs.plain (hplain q hq).1
          (fun hsub => heq (hapart p hp q hq hsub).symm)
          fun hsub => heq (hapart q hq p hp hsub))
  · rcases hwrote.others key (hkey p hp) with hsame | ⟨hnow, hbefore, hway⟩
    · rw [hsame]
      exact hready.others key hkey
    · rcases hready.others key hkey with hsame | ⟨hdirectory, -⟩
      · exact .inr ⟨hnow, hsame ▸ hbefore, .inr ⟨p, hp, hway⟩⟩
      · rw [hbefore] at hdirectory
        cases hdirectory

end

/-! ## What has changed in the end -/

/-- A tree before and after texts were written in files below a home: each file holds its text, on
the ways to them are directories, which were there before or where nothing was, and nothing else has
changed. -/
structure Built (before : FileTree) (home : Trail) (texts : List (Path × String))
    (after : FileTree) : Prop where
  files : ∀ e ∈ texts, after.entries.get? e.1.text = some (.file (some e.2))
  directories : ∀ key, OnWays home (texts.map Prod.fst) key →
    after.entries.get? key = some .directory ∧
      (before.entries.get? key = some .directory ∨ before.entries.get? key = none)
  others : ∀ key, (∀ e ∈ texts, key ≠ e.1.text) → ¬ OnWays home (texts.map Prod.fst) key →
    after.entries.get? key = before.entries.get? key

section

variable {before after : FileTree} {home : Trail} {paths : List Path}
  {texts : List (Path × String)}

/-- A tree that was ready for some paths, and holds their texts now. -/
theorem Ready.built (h : Ready before home paths after) (hhome : home.IsPlain)
    (hplain : ∀ p ∈ paths, p.IsPlain) (hpaths : texts.map Prod.fst = paths)
    (htexts : ∀ e ∈ texts, after.text? e.1 = some e.2) : Built before home texts after := by
  subst hpaths
  have hmem : ∀ e ∈ texts, e.1 ∈ texts.map Prod.fst := fun e he => List.mem_map_of_mem he
  have hentry : ∀ e ∈ texts, after.entry? e.1.place = some (.file (some e.2)) := fun e he =>
    (text_of_free (hplain e.1 (hmem e he)).spells e.1.place_ne_nil (h.free e.1 (hmem e he))).mp
      (text?_eq_some_iff.mp (htexts e he))
  have hfile : ∀ e ∈ texts, after.entries.get? e.1.place.key = some (.file (some e.2)) := by
    intro e he
    rw [← entry?_of_plain _ (hplain e.1 (hmem e he)).1 e.1.place_ne_nil, hentry e he]
  have hdirectory : ∀ key, OnWays home (texts.map Prod.fst) key →
      after.entries.get? key = some .directory := by
    rintro key (hway | ⟨p, hp, hway⟩)
    · exact h.opened.get?_of_onWay hhome hway
    · obtain ⟨e, he, rfl⟩ := List.mem_map.mp hp
      have hopen := (h.free e.1 hp).reached (by simp [hentry e he])
      exact hopen.get?_of_onWay ((hplain e.1 hp).1.mono (List.tail_suffix _)) hway
  refine ⟨fun e he => e.1.key_place ▸ hfile e he, fun key hway => ⟨hdirectory key hway, ?_⟩,
    fun key hkey hway => ?_⟩
  · have hother : ∀ p ∈ texts.map Prod.fst, key ≠ p.place.key := by
      rintro p hp rfl
      obtain ⟨e, he, rfl⟩ := List.mem_map.mp hp
      have hnow := hdirectory _ hway
      rw [hfile e he] at hnow
      cases hnow
    rcases h.others key hother with hsame | ⟨-, hnone, -⟩
    · exact .inl (hsame ▸ hdirectory key hway)
    · exact .inr hnone
  · refine (h.others key fun p hp => ?_).resolve_right fun hchange => hway hchange.2.2
    obtain ⟨e, he, rfl⟩ := List.mem_map.mp hp
    rw [e.1.key_place]
    exact hkey e he

theorem get?_of_mem_changesSince {e : String × FileEntry} (h : e ∈ after.changesSince before) :
    after.entries.get? e.1 = some e.2 ∧ before.entries.get? e.1 ≠ some e.2 := by
  obtain ⟨hmem, hnew⟩ := List.mem_filter.mp h
  refine ⟨SortedMap.mem_entries_iff.mp hmem, ?_⟩
  simp only [Bool.and_eq_true, decide_eq_true_eq] at hnew
  exact hnew.1

/-- The changes are the files with their texts, and directories on the ways to them, where there was
nothing before. -/
theorem Built.of_mem_changesSince (h : Built before home texts after) {e : String × FileEntry}
    (he : e ∈ after.changesSince before) :
    (∃ file ∈ texts, e = (file.1.text, .file (some file.2))) ∨
      e.2 = .directory ∧ before.entries.get? e.1 = none ∧ OnWays home (texts.map Prod.fst) e.1 := by
  obtain ⟨key, entry⟩ := e
  obtain ⟨hafter, hbefore⟩ := get?_of_mem_changesSince he
  by_cases hfile : ∃ file ∈ texts, key = file.1.text
  · obtain ⟨file, hmem, rfl⟩ := hfile
    rw [h.files file hmem] at hafter
    exact .inl ⟨file, hmem, by rw [Option.some.inj hafter]⟩
  · by_cases hway : OnWays home (texts.map Prod.fst) key
    · obtain ⟨hnow, hthen⟩ := h.directories key hway
      rw [hnow] at hafter
      obtain rfl := Option.some.inj hafter
      exact .inr ⟨rfl, hthen.resolve_left hbefore, hway⟩
    · have hsame := h.others key (fun file hmem heq => hfile ⟨file, hmem, heq⟩) hway
      rw [hsame] at hafter
      exact absurd hafter hbefore

end

end FileTree

end ViewBinding
