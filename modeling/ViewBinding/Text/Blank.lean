import ViewBinding.Text.CodeRun

/-!
# Blank characters

The characters with the Unicode property `White_Space`, and the trimming of texts by them.

* `trimStart_eq_self`: a text that starts with no blank is left alone.
-/

namespace ViewBinding.Text

/-- The runs of blank code points. -/
def blankRuns : List (Nat × Nat) := [
  (0x9, 0xD), (0x20, 0x20), (0x85, 0x85), (0xA0, 0xA0), (0x1680, 0x1680), (0x2000, 0x200A),
  (0x2028, 0x2029), (0x202F, 0x202F), (0x205F, 0x205F), (0x3000, 0x3000)]

/-- A character of `blankRuns`. -/
def isBlank (c : Char) : Bool :=
  inRuns blankRuns c.toNat

/-- The text without the blanks at its start. -/
def trimStart (cs : List Char) : List Char :=
  cs.dropWhile isBlank

/-- The text without the blanks at its end. -/
def trimEnd (cs : List Char) : List Char :=
  (trimStart cs.reverse).reverse

/-- The text without the blanks at both ends. -/
def trim (cs : List Char) : List Char :=
  trimEnd (trimStart cs)

theorem trimStart_eq_self {c : Char} {cs : List Char} (h : isBlank c = false) :
    trimStart (c :: cs) = c :: cs := by
  simp [trimStart, h]

theorem length_trimStart_le (cs : List Char) : (trimStart cs).length ≤ cs.length :=
  (List.dropWhile_sublist isBlank).length_le

/-- A text of blanks alone; the empty text is one. -/
def isBlankText (text : String) : Bool :=
  text.toList.all isBlank

@[simp] theorem isBlankText_empty : isBlankText "" = true := rfl

end ViewBinding.Text
