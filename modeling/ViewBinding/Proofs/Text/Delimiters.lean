import Mathlib.Data.List.Infix
import Mathlib.Tactic.Ring

/-!
# Delimiters in texts

Braces, parentheses and brackets are nested properly if each closing one closes the last that is
still open, and none stays open. A text is read from left to right, with the delimiters that are
waited for: what a piece of text does to them is the same wherever the piece stands, so a text can
be read piece by piece.

* `scan`, `IsNested`: reading a text, and texts that leave nothing open.
* `Reads`: what a piece of text closes and opens, and how many statements it ends.
* `Reads.append`, `Reads.frame`: two pieces, and a piece inside open delimiters.
* `braceDepth_of_scan`: the depth of braces, read off the delimiters that are waited for.
* `braceDepth_pos_of_opened`: the depth inside the braces of a block.
-/

namespace ViewBinding.Text

/-! ## Nesting -/

/-- The delimiter that closes what the character opens. -/
def closerOf? : Char → Option Char
  | '{' => some '}'
  | '(' => some ')'
  | '[' => some ']'
  | _ => none

/-- The character closes a delimiter. -/
def isCloser (c : Char) : Bool :=
  c = '}' || c = ')' || c = ']'

/-- Reads one character. `waiting` are the closing delimiters that are waited for, the next one
first. -/
def readChar (waiting : List Char) (c : Char) : Option (List Char) :=
  match closerOf? c with
  | some closer => some (closer :: waiting)
  | none =>
    if isCloser c then if waiting.head? = some c then some waiting.tail else none
    else some waiting

/-- Reads a text, unless a delimiter is closed that is not the last one open. -/
def scan (waiting cs : List Char) : Option (List Char) :=
  cs.foldlM readChar waiting

/-- All delimiters of the text are opened and closed, properly nested. -/
def IsNested (cs : List Char) : Prop :=
  scan [] cs = some []

instance (cs : List Char) : Decidable (IsNested cs) :=
  inferInstanceAs (Decidable (_ = _))

theorem scan_cons (waiting : List Char) (c : Char) (cs : List Char) :
    scan waiting (c :: cs) = (readChar waiting c).bind (scan · cs) := by
  rw [scan, List.foldlM_cons]
  rfl

theorem scan_append (waiting cs ds : List Char) :
    scan waiting (cs ++ ds) = (scan waiting cs).bind (scan · ds) := by
  rw [scan, List.foldlM_append]
  rfl

/-- A character opens a delimiter, closes the one that is waited for, or does neither. -/
theorem readChar_eq_some_iff {waiting after : List Char} {c : Char} :
    readChar waiting c = some after ↔
      (∃ closer, closerOf? c = some closer ∧ after = closer :: waiting) ∨
      (closerOf? c = none ∧ isCloser c = true ∧ waiting = c :: after) ∨
      (closerOf? c = none ∧ isCloser c = false ∧ after = waiting) := by
  unfold readChar
  cases closerOf? c with
  | some closer =>
    simp only [Option.some.injEq, exists_eq_left', reduceCtorEq, false_and, or_false]
    exact eq_comm
  | none =>
    cases isCloser c with
    | false => simp [eq_comm]
    | true =>
      cases waiting with
      | nil => simp
      | cons closer rest => by_cases hc : closer = c <;> simp [hc]

/-- What was waited for before a character is left alone by it. -/
theorem readChar_append {waiting after : List Char} {c : Char} (h : readChar waiting c = some after)
    (outer : List Char) : readChar (waiting ++ outer) c = some (after ++ outer) := by
  rw [readChar_eq_some_iff] at h ⊢
  rcases h with ⟨closer, hopen, rfl⟩ | ⟨hnone, hclose, rfl⟩ | ⟨hnone, hplain, rfl⟩
  · exact .inl ⟨closer, hopen, rfl⟩
  · exact .inr (.inl ⟨hnone, hclose, rfl⟩)
  · exact .inr (.inr ⟨hnone, hplain, rfl⟩)

theorem scan_frame {waiting after cs : List Char} (h : scan waiting cs = some after)
    (outer : List Char) : scan (waiting ++ outer) cs = some (after ++ outer) := by
  induction cs generalizing waiting with
  | nil =>
    cases h
    rfl
  | cons c cs ih =>
    rw [scan_cons, Option.bind_eq_some_iff] at h
    obtain ⟨next, hnext, hrest⟩ := h
    rw [scan_cons, readChar_append hnext, Option.bind_some, ih hrest]

/-! ## Pieces of text -/

/-- The characters that give a source its structure: the delimiters, and the end of a statement. -/
def marks : List Char :=
  ['{', '}', '(', ')', '[', ']', ';']

/-- Reading the piece closes `before`, opens `after`, and passes so many ends of statements. -/
structure Reads (before cs : List Char) (ends : Nat) (after : List Char) : Prop where
  scan : scan before cs = some after
  ends : cs.count ';' = ends

/-- A piece that leaves the structure alone. -/
def Neutral (cs : List Char) : Prop :=
  Reads [] cs 0 []

section

variable {before between after cs ds : List Char} {m n : Nat}

theorem Reads.append (h : Reads before cs m between) (h' : Reads between ds n after) :
    Reads before (cs ++ ds) (m + n) after where
  scan := by rw [scan_append, h.scan, Option.bind_some, h'.scan]
  ends := by rw [List.count_append, h.ends, h'.ends]

/-- Inside other delimiters a piece reads as it does alone. -/
theorem Reads.frame (h : Reads before cs n after) (outer : List Char) :
    Reads (before ++ outer) cs n (after ++ outer) :=
  ⟨scan_frame h.scan outer, h.ends⟩

theorem neutral_nil : Neutral [] := ⟨rfl, rfl⟩

theorem Neutral.append (h : Neutral cs) (h' : Neutral ds) : Neutral (cs ++ ds) :=
  Reads.append h h'

/-- A neutral piece may stand anywhere. -/
theorem Neutral.reads (h : Neutral cs) (waiting : List Char) : Reads waiting cs 0 waiting :=
  Reads.frame h waiting

/-- A neutral piece may be put in front of another one, or behind it. -/
theorem Neutral.reads_append (h : Neutral cs) (h' : Reads before ds n after) :
    Reads before (cs ++ ds) n after := by
  have happend := (h.reads before).append h'
  rwa [Nat.zero_add] at happend

theorem Reads.append_neutral (h : Reads before cs n after) (h' : Neutral ds) :
    Reads before (cs ++ ds) n after :=
  h.append (h'.reads after)

theorem readChar_of_not_mem {c : Char} (h : c ∉ marks) (waiting : List Char) :
    readChar waiting c = some waiting := by
  simp only [marks, List.mem_cons, List.not_mem_nil, or_false, not_or] at h
  refine readChar_eq_some_iff.mpr (.inr (.inr ⟨?_, by simp [isCloser, h], rfl⟩))
  unfold closerOf?
  split <;> simp_all

/-- Characters that pass a test are no marks, if no mark passes it. -/
theorem not_mem_marks {p : Char → Bool} (hmarks : marks.any p = false)
    (h : ∀ c ∈ cs, p c = true) : ∀ c ∈ cs, c ∉ marks :=
  fun c hc hmark => List.any_eq_false.mp hmarks c hmark (h c hc)

/-- A text without such characters is neutral. -/
theorem neutral_of_plain (h : ∀ c ∈ cs, c ∉ marks) : Neutral cs := by
  induction cs with
  | nil => exact neutral_nil
  | cons c cs ih =>
    obtain ⟨hc, hcs⟩ := List.forall_mem_cons.mp h
    obtain ⟨hscan, hends⟩ := ih hcs
    refine ⟨?_, ?_⟩
    · rw [scan_cons, readChar_of_not_mem hc, Option.bind_some, hscan]
    · have hne : c ≠ ';' := fun heq => hc (heq ▸ by decide)
      rw [List.count_cons_of_ne hne, hends]

end

/-! ## The depth of braces -/

/-- How many braces are open after the text. -/
def braceDepth (cs : List Char) : Int :=
  cs.count '{' - cs.count '}'

theorem braceDepth_append (cs ds : List Char) :
    braceDepth (cs ++ ds) = braceDepth cs + braceDepth ds := by
  simp only [braceDepth, List.count_append, Nat.cast_add]
  ring

/-- One character changes the depth as it changes the braces that are waited for. -/
theorem braceDepth_of_readChar {waiting after : List Char} {c : Char}
    (h : readChar waiting c = some after) :
    braceDepth [c] = after.count '}' - waiting.count '}' := by
  rcases readChar_eq_some_iff.mp h with ⟨closer, hopen, rfl⟩ | ⟨-, hclose, rfl⟩ |
    ⟨hnone, hplain, rfl⟩
  · unfold closerOf? at hopen
    split at hopen <;> cases hopen <;> simp [braceDepth]
  · simp only [isCloser, Bool.or_eq_true, decide_eq_true_eq] at hclose
    rcases hclose with (rfl | rfl) | rfl <;> simp [braceDepth]
  · have hopen : c ≠ '{' := fun heq => by
      rw [heq] at hnone
      cases hnone
    have hclose : c ≠ '}' := fun heq => by
      rw [heq] at hplain
      cases hplain
    simp [braceDepth, hopen, hclose]

/-- A text changes the depth as it changes the braces that are waited for. -/
theorem braceDepth_of_scan {waiting after cs : List Char} (h : scan waiting cs = some after) :
    braceDepth cs = after.count '}' - waiting.count '}' := by
  induction cs generalizing waiting with
  | nil =>
    cases h
    simp [braceDepth]
  | cons c cs ih =>
    rw [scan_cons, Option.bind_eq_some_iff] at h
    obtain ⟨next, hnext, hrest⟩ := h
    have hdepth : braceDepth (c :: cs) = braceDepth [c] + braceDepth cs := braceDepth_append [c] cs
    rw [hdepth, braceDepth_of_readChar hnext, ih hrest]
    ring

/-- The depth is never negative in a text that can be read alone. -/
theorem braceDepth_nonneg {after cs front : List Char} (h : scan [] cs = some after)
    (hfront : front <+: cs) : 0 ≤ braceDepth front := by
  obtain ⟨rest, rfl⟩ := hfront
  rw [scan_append, Option.bind_eq_some_iff] at h
  obtain ⟨between, hbetween, -⟩ := h
  rw [braceDepth_of_scan hbetween, List.count_nil]
  omega

theorem braceDepth_eq_zero {cs : List Char} (h : IsNested cs) : braceDepth cs = 0 :=
  braceDepth_of_scan h

theorem Neutral.braceDepth {cs : List Char} (h : Neutral cs) : Text.braceDepth cs = 0 :=
  braceDepth_eq_zero h.scan

/-- The text holds no braces. -/
def Braceless (cs : List Char) : Prop :=
  ∀ c ∈ cs, c ≠ '{' ∧ c ≠ '}'

instance (cs : List Char) : Decidable (Braceless cs) :=
  List.decidableBAll (fun c => c ≠ '{' ∧ c ≠ '}') cs

theorem Braceless.append {cs ds : List Char} (h : Braceless cs) (h' : Braceless ds) :
    Braceless (cs ++ ds) :=
  List.forall_mem_append.mpr ⟨h, h'⟩

theorem Braceless.braceDepth {cs : List Char} (h : Braceless cs) : Text.braceDepth cs = 0 := by
  rw [Text.braceDepth, List.count_eq_zero_of_not_mem fun hmem => (h _ hmem).1 rfl,
    List.count_eq_zero_of_not_mem fun hmem => (h _ hmem).2 rfl]
  rfl

theorem braceless_of_plain {cs : List Char} (h : ∀ c ∈ cs, c ∉ marks) : Braceless cs :=
  fun c hc => ⟨fun heq => h c hc (heq ▸ by decide), fun heq => h c hc (heq ▸ by decide)⟩

/-- Behind the first opening brace, the depth stays positive all through a nested text. -/
theorem braceDepth_pos_of_opened {front body part : List Char} (hfront : Braceless front)
    (hbody : IsNested body) (hpart : part <+: body) : 0 < braceDepth (front ++ '{' :: part) := by
  have hnonneg := braceDepth_nonneg hbody hpart
  have hsplit : braceDepth ('{' :: part) = 1 + braceDepth part := braceDepth_append ['{'] part
  rw [braceDepth_append, hfront.braceDepth, hsplit]
  omega

end ViewBinding.Text
