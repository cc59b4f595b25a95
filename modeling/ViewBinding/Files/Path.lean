import ViewBinding.Text.Segments

/-!
# Paths

A path is a text whose steps are separated by slashes. It is kept as it was written: `a//b` and
`./a/b` are other texts than `a/b`, though they lead to the same place.

* `push_of_relative`: going one step further adds a slash only where there is none.
* `length_parent?_lt`: the parent of a path is shorter.
-/

namespace ViewBinding

/-- A path as it is written. -/
structure Path where
  text : String
  deriving DecidableEq, Repr

namespace Path

/-- The path starts at the root. -/
def startsAtRoot (cs : List Char) : Bool :=
  cs.head? = some '/'

/-- The path is empty or ends with a slash, so that a step may follow at once. -/
def isOpenEnded (cs : List Char) : Bool :=
  cs.getLast?.all (· = '/')

/-- One text after another; a text that starts at the root replaces what was before. -/
def pushChars (cs step : List Char) : List Char :=
  if startsAtRoot step then step
  else if isOpenEnded cs then cs ++ step
  else cs ++ '/' :: step

/-- The path with one more step. -/
def push (p : Path) (step : String) : Path :=
  ⟨String.ofList (pushChars p.text.toList step.toList)⟩

theorem push_of_relative {p : Path} {step : String} (h : startsAtRoot step.toList = false) :
    (p.push step).text.toList =
      p.text.toList ++ (if isOpenEnded p.text.toList then [] else ['/']) ++ step.toList := by
  simp only [push, pushChars, h, Bool.false_eq_true, if_false, String.toList_ofList]
  split <;> simp

/-! ## Steps -/

/-- The text stays where it is: it is empty or a single dot. -/
def isIdle (step : List Char) : Bool :=
  step.isEmpty || step = ['.']

/-- The steps that lead somewhere, from first to last. -/
def steps (cs : List Char) : List (List Char) :=
  (Text.segments '/' cs).filter fun step => !isIdle step

/-- Where the steps begin: the root, or a single dot in front. -/
def anchor : List Char → List Char
  | ['.'] | '.' :: '/' :: _ => ['.']
  | '/' :: _ => ['/']
  | _ => []

/-- The path without its last step, as far as a step that leads somewhere. The root has no parent,
nor has the empty path; a single dot has the empty one. -/
def parentChars (cs : List Char) : Option (List Char) :=
  let start := anchor cs
  match (Text.segments '/' (cs.drop start.length)).reverse.dropWhile isIdle with
  | [] => if start = ['.'] then some [] else none
  | _ :: before => some (start ++ Text.joinWith '/' (before.dropWhile isIdle).reverse)

/-- The path one step up. -/
def parent? (p : Path) : Option Path :=
  (parentChars p.text.toList).map fun cs => ⟨String.ofList cs⟩

theorem anchor_append_drop (cs : List Char) : anchor cs ++ cs.drop (anchor cs).length = cs := by
  unfold anchor
  split <;> simp_all

theorem length_parentChars_lt {cs up : List Char} (h : parentChars cs = some up) :
    up.length < cs.length := by
  have hcs := congrArg List.length (anchor_append_drop cs)
  rw [List.length_append] at hcs
  have hjoin := Text.joinWith_segments '/' (cs.drop (anchor cs).length)
  simp only [parentChars] at h
  split at h
  · split at h <;> simp_all
    omega
  · next last before heq =>
    obtain rfl := Option.some.inj h
    -- The step taken off is not idle, so it has a character; what is cut besides only shortens.
    have hidle : isIdle last = false := by
      have := List.head?_dropWhile_not isIdle
        (Text.segments '/' (cs.drop (anchor cs).length)).reverse
      simpa [heq] using this
    have hlast : 0 < last.length := by
      cases last with
      | nil => simp [isIdle] at hidle
      | cons => simp
    have hbefore := Text.length_joinWith_le_of_isPrefix '/'
      (List.reverse_prefix.mpr
        (show before.dropWhile isIdle <:+ before from List.dropWhile_suffix _))
    have hcut := Text.length_joinWith_append '/' before.reverse [last]
    have hall := Text.length_joinWith_le_of_isPrefix '/'
      (List.reverse_prefix.mpr (heq ▸ List.dropWhile_suffix isIdle))
    rw [List.reverse_reverse, hjoin, List.reverse_cons] at hall
    simp only [Text.joinWith, List.length_append] at *
    omega

theorem length_parent?_lt {p up : Path} (h : p.parent? = some up) :
    up.text.toList.length < p.text.toList.length := by
  obtain ⟨cs, hcs, rfl⟩ := Option.map_eq_some_iff.mp h
  simpa using length_parentChars_lt hcs

/-! ## Name and extension -/

/-- The last step, unless it goes up. -/
def fileName? (p : Path) : Option (List Char) :=
  match (steps p.text.toList).getLast? with
  | some step => if step = ['.', '.'] then none else some step
  | none => none

/-- The part of the name after its last dot. A dot in front makes no extension. -/
def extension? (p : Path) : Option String :=
  match p.fileName? with
  | none => none
  | some name =>
    match Text.splitLast? '.' name with
    | some ([], _) | none => none
    | some (_, extension) => some (String.ofList extension)

end Path

end ViewBinding
