import ViewBinding.Files.Tree
import ViewBinding.Proofs.Text.Segments

/-!
# The places that paths lead to

A plain path spells a place out: the names that lead to it, with slashes between them. Nothing in it
is idle, goes up, or is too long to be a name. The path above it spells the place above.

* `Trail.IsPlain`, `Path.Spells`: places made of names, and the paths that spell them.
* `Trail.IsPlain.key_inj`: plain places go by different texts.
* `Path.Spells.parent?`: the path above.
-/

namespace ViewBinding

open Text

/-! ## Names -/

namespace Trail

/-- A name that a file or a directory can have: a step that goes down, and is not too long. -/
structure IsName (name : List Char) : Prop where
  slash : '/' ∉ name
  null : '\x00' ∉ name
  idle : Path.isIdle name = false
  dots : name ≠ dots
  long : FileTree.isLongName name = false

instance (name : List Char) : Decidable (IsName name) :=
  decidable_of_iff ('/' ∉ name ∧ '\x00' ∉ name ∧ Path.isIdle name = false ∧ name ≠ dots ∧
      FileTree.isLongName name = false)
    ⟨fun ⟨slash, null, idle, dots, long⟩ => ⟨slash, null, idle, dots, long⟩,
      fun h => ⟨h.slash, h.null, h.idle, h.dots, h.long⟩⟩

theorem IsName.ne_nil {name : List Char} (h : IsName name) : name ≠ [] := by
  rintro rfl
  cases h.idle

/-- Names lead to the place, and nothing else does. -/
def IsPlain (place : Trail) : Prop :=
  ∀ name ∈ place, IsName name

instance (place : Trail) : Decidable place.IsPlain :=
  inferInstanceAs (Decidable (∀ name ∈ place, IsName name))

variable {place other : Trail} {name : List Char}

theorem IsPlain.mono (h : IsPlain place) (hsub : other <:+ place) : IsPlain other :=
  fun name hname => h name (hsub.subset hname)

/-- A place with a name to it is below the working directory. -/
theorem IsPlain.isAbove_eq_false (h : IsPlain place) (hne : place ≠ []) :
    place.isAbove = false := by
  obtain ⟨name, rest, rfl⟩ := List.exists_cons_of_ne_nil hne
  simp [isAbove, (h name List.mem_cons_self).dots]

/-- Plain places go by different texts. -/
theorem IsPlain.key_inj (h : IsPlain place) (h' : IsPlain other) (hne : place ≠ [])
    (hne' : other ≠ []) (hkey : place.key = other.key) : place = other := by
  have hjoin := String.ofList_injective hkey
  have hcut := congrArg (segments '/') hjoin
  rw [segments_joinWith (by simpa using hne) fun piece hpiece =>
      (h piece (List.mem_reverse.mp hpiece)).slash,
    segments_joinWith (by simpa using hne') fun piece hpiece =>
      (h' piece (List.mem_reverse.mp hpiece)).slash] at hcut
  exact List.reverse_inj.mp hcut

end Trail

/-! ## Paths -/

namespace Path

/-- The place that a path leads to if all its steps go down. -/
def place (p : Path) : Trail :=
  (segments '/' p.text.toList).reverse

/-- The path is made of names, and is not too long itself. -/
def IsPlain (p : Path) : Prop :=
  p.place.IsPlain ∧ p.text.utf8ByteSize < 4096

instance (p : Path) : Decidable p.IsPlain :=
  inferInstanceAs (Decidable (_ ∧ _))

/-- The path spells the place out, name by name. The working directory is spelt by no names. -/
structure Spells (p : Path) (place : Trail) : Prop where
  plain : place.IsPlain
  text : p.text.toList = joinWith '/' place.reverse
  short : p.text.utf8ByteSize < 4096

/-- The place of a path goes by the text of the path. -/
theorem key_place (p : Path) : p.place.key = p.text := by
  rw [place, Trail.key, List.reverse_reverse, joinWith_segments, String.ofList_toList]

theorem place_ne_nil (p : Path) : p.place ≠ [] := by
  simpa [place] using segments_ne_nil '/' p.text.toList

theorem IsPlain.spells {p : Path} (h : p.IsPlain) : p.Spells p.place where
  plain := h.1
  text := by rw [place, List.reverse_reverse, joinWith_segments]
  short := h.2

variable {p : Path} {place rest : Trail} {name : List Char}

/-- The path is cut into the names again. -/
theorem Spells.segments_eq (h : p.Spells place) (hne : place ≠ []) :
    segments '/' p.text.toList = place.reverse := by
  rw [h.text]
  exact segments_joinWith (by simpa using hne) fun piece hpiece =>
    (h.plain piece (List.mem_reverse.mp hpiece)).slash

/-- All its steps lead somewhere. -/
theorem Spells.steps_eq (h : p.Spells place) : steps p.text.toList = place.reverse := by
  by_cases hne : place = []
  · rw [h.text, hne]
    rfl
  · rw [steps, h.segments_eq hne, List.filter_eq_self]
    intro step hstep
    rw [(h.plain step (List.mem_reverse.mp hstep)).idle]
    rfl

/-- A plain path begins with a name. -/
theorem Spells.exists_front (h : p.Spells place) (hne : place ≠ []) :
    ∃ front more, Trail.IsName front ∧ p.text.toList = front ++ more ∧
      (more = [] ∨ more.head? = some '/') := by
  obtain ⟨front, names, hnames⟩ := List.exists_cons_of_ne_nil (mt List.reverse_eq_nil_iff.mp hne)
  have hfront : Trail.IsName front := h.plain front (List.mem_reverse.mp (by simp [hnames]))
  rw [h.text, hnames]
  cases names with
  | nil => exact ⟨front, [], hfront, (List.append_nil _).symm, .inl rfl⟩
  | cons next names => exact ⟨front, _, hfront, rfl, .inr rfl⟩

theorem Spells.isEmpty_eq_false (h : p.Spells place) (hne : place ≠ []) :
    p.text.isEmpty = false := by
  obtain ⟨front, more, hfront, htext, -⟩ := h.exists_front hne
  rw [Bool.eq_false_iff, ne_eq, String.isEmpty_iff, ← String.toList_eq_nil_iff, htext,
    List.append_eq_nil_iff]
  exact fun hnil => hfront.ne_nil hnil.1

/-- A plain path can be followed. -/
theorem Spells.pathFault?_eq_none (h : p.Spells place) (hne : place ≠ []) :
    FileTree.pathFault? p = none := by
  obtain ⟨front, more, hfront, htext, -⟩ := h.exists_front hne
  obtain ⟨c, cs, hcs⟩ := List.exists_cons_of_ne_nil hfront.ne_nil
  have hempty := h.isEmpty_eq_false hne
  have hnull : '\x00' ∉ p.text.toList := by
    intro hmem
    rw [h.text] at hmem
    rcases mem_joinWith hmem with hslash | ⟨piece, hpiece, hc⟩
    · exact absurd hslash (by decide)
    · exact (h.plain piece (List.mem_reverse.mp hpiece)).null hc
  have hroot : startsAtRoot p.text.toList = false := by
    have hslash : c ≠ '/' := fun heq => hfront.slash (by simp [hcs, heq])
    simp [startsAtRoot, htext, hcs, hslash]
  simp [FileTree.pathFault?, hempty, hnull, hroot, Nat.not_le.mpr h.short]

/-- Neither a slash nor a single dot stands in front of a plain path. -/
theorem Spells.anchor_eq_nil (h : p.Spells place) (hne : place ≠ []) :
    anchor p.text.toList = [] := by
  obtain ⟨front, more, hfront, htext, hmore⟩ := h.exists_front hne
  obtain ⟨c, cs, hcs⟩ := List.exists_cons_of_ne_nil hfront.ne_nil
  have hslash : c ≠ '/' := fun heq => hfront.slash (by simp [hcs, heq])
  have hdot : front ≠ ['.'] := by
    rintro rfl
    exact absurd hfront.idle (by decide)
  rw [htext, hcs, List.cons_append]
  unfold anchor
  split
  · next heq =>
    obtain ⟨rfl, hrest⟩ := List.cons.inj heq
    exact absurd (by rw [hcs, (List.append_eq_nil_iff.mp hrest).1]) hdot
  · next heq =>
    obtain ⟨rfl, hrest⟩ := List.cons.inj heq
    cases cs with
    | nil => exact absurd hcs hdot
    | cons d cs =>
      obtain ⟨rfl, -⟩ := List.cons.inj hrest
      exact absurd (by simp [hcs]) hfront.slash
  · next heq => exact absurd (List.cons.inj heq).1 hslash
  · rfl

/-- Without its last name a plain path spells the place above. -/
theorem Spells.parentChars_eq (h : p.Spells (name :: rest)) :
    parentChars p.text.toList = some (joinWith '/' rest.reverse) := by
  have hne : name :: rest ≠ [] := List.cons_ne_nil _ _
  have hname : isIdle name = false := (h.plain name List.mem_cons_self).idle
  have hrest : rest.dropWhile isIdle = rest := by
    cases rest with
    | nil => rfl
    | cons above rest =>
      have habove : isIdle above = false := (h.plain above (by simp)).idle
      rw [List.dropWhile_cons_of_neg (by simp [habove])]
  unfold parentChars
  simp only [h.anchor_eq_nil hne, List.length_nil, List.drop_zero, h.segments_eq hne,
    List.reverse_reverse, List.dropWhile_cons_of_neg (show ¬ isIdle name = true by simp [hname]),
    hrest, List.nil_append]

/-- The path above spells the place above. -/
theorem Spells.parent? (h : p.Spells (name :: rest)) :
    ∃ above, p.parent? = some above ∧ above.Spells rest := by
  refine ⟨⟨String.ofList (joinWith '/' rest.reverse)⟩, ?_, ?_, String.toList_ofList, ?_⟩
  · rw [Path.parent?, h.parentChars_eq]
    rfl
  · exact h.plain.mono (List.suffix_cons name rest)
  · have hprefix : joinWith '/' rest.reverse <+: p.text.toList := by
      rw [h.text]
      exact joinWith_isPrefix (List.reverse_prefix.mpr (List.suffix_cons name rest))
    obtain ⟨more, hmore⟩ := hprefix
    have htext : p.text = String.ofList (joinWith '/' rest.reverse) ++ String.ofList more := by
      rw [← String.toList_inj, String.toList_append, String.toList_ofList, String.toList_ofList,
        hmore]
    have hshort := h.short
    rw [htext, String.utf8ByteSize_append] at hshort
    exact Nat.lt_of_le_of_lt (Nat.le_add_right _ _) hshort

end Path

end ViewBinding
