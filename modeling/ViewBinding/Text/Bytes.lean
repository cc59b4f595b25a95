/-!
# Places in a text, counted in bytes

The length of a text in UTF-8, and what stands in front of a place that is given in bytes.

* `sliceTo?_eq_some_iff`: a text can be cut exactly behind its beginnings.
-/

namespace ViewBinding.Text

/-- The number of bytes of a text in UTF-8. -/
def byteLength : List Char → Nat
  | [] => 0
  | c :: cs => c.utf8Size + byteLength cs

/-- The first `stop` bytes of a text, unless they end inside a character or behind the text. -/
def sliceTo? : Nat → List Char → Option (List Char)
  | 0, _ => some []
  | _ + 1, [] => none
  | stop + 1, c :: cs =>
    if c.utf8Size ≤ stop + 1 then (sliceTo? (stop + 1 - c.utf8Size) cs).map (c :: ·) else none

@[simp] theorem byteLength_nil : byteLength [] = 0 := rfl

@[simp] theorem byteLength_cons (c : Char) (cs : List Char) :
    byteLength (c :: cs) = c.utf8Size + byteLength cs := rfl

@[simp] theorem byteLength_append (cs ds : List Char) :
    byteLength (cs ++ ds) = byteLength cs + byteLength ds := by
  induction cs with
  | nil => simp
  | cons c cs ih => simp [ih, Nat.add_assoc]

@[simp] theorem byteLength_eq_zero_iff {cs : List Char} : byteLength cs = 0 ↔ cs = [] := by
  cases cs with
  | nil => simp
  | cons c cs =>
    have := c.utf8Size_pos
    simp only [byteLength_cons, reduceCtorEq, iff_false]
    omega

/-- A text can be cut exactly behind its beginnings. -/
theorem sliceTo?_eq_some_iff {stop : Nat} {cs front : List Char} :
    sliceTo? stop cs = some front ↔ front <+: cs ∧ byteLength front = stop := by
  fun_induction sliceTo? stop cs generalizing front with
  | case1 cs =>
    rw [byteLength_eq_zero_iff, Option.some.injEq]
    constructor
    · rintro rfl
      exact ⟨List.nil_prefix, rfl⟩
    · rintro ⟨-, rfl⟩
      rfl
  | case2 stop =>
    simp only [reduceCtorEq, false_iff, List.prefix_nil]
    rintro ⟨rfl, hlength⟩
    cases hlength
  | case3 stop c cs hfits ih =>
    rw [Option.map_eq_some_iff]
    constructor
    · rintro ⟨rest, hrest, rfl⟩
      obtain ⟨hbegin, hlength⟩ := ih.mp hrest
      exact ⟨List.cons_prefix_cons.mpr ⟨rfl, hbegin⟩, by rw [byteLength_cons]; omega⟩
    · rintro ⟨hbegin, hlength⟩
      cases front with
      | nil => cases hlength
      | cons d front =>
        obtain ⟨rfl, hrest⟩ := List.cons_prefix_cons.mp hbegin
        rw [byteLength_cons] at hlength
        exact ⟨front, ih.mpr ⟨hrest, by omega⟩, rfl⟩
  | case4 stop c cs hlong =>
    simp only [reduceCtorEq, false_iff]
    rintro ⟨hbegin, hlength⟩
    cases front with
    | nil => cases hlength
    | cons d front =>
      obtain ⟨rfl, -⟩ := List.cons_prefix_cons.mp hbegin
      rw [byteLength_cons] at hlength
      omega

end ViewBinding.Text
