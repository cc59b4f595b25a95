import Mathlib.Data.List.Basic

/-!
# The order of texts by their bytes

Texts are ordered by the numbers of their characters. The bytes of their UTF-8 encoding, compared
one by one, give the same order.

* `encode_lt_encode`: of two characters the smaller one has the smaller encoding, whatever follows.
* `byteLess_iff`: the two orders agree on all texts.
-/

namespace ViewBinding.Text

/-- The bytes of a text in UTF-8. -/
def bytes (text : String) : List UInt8 :=
  text.toByteArray.data.toList

/-- The bytes of the first text stand before those of the second, byte by byte. -/
def ByteLess (a b : String) : Prop :=
  bytes a < bytes b

instance (a b : String) : Decidable (ByteLess a b) :=
  inferInstanceAs (Decidable (_ < _))

theorem bytes_eq_flatMap (text : String) :
    bytes text = text.toList.flatMap String.utf8EncodeChar := by
  rw [bytes, ← String.utf8Encode_toList, List.utf8Encode, List.toList_data_toByteArray]

theorem ofNat_cons_lt_iff {m n : Nat} {xs ys : List UInt8} (hm : m < 256) (hn : n < 256) :
    UInt8.ofNat m :: xs < UInt8.ofNat n :: ys ↔ m < n ∨ m = n ∧ xs < ys := by
  rw [List.cons_lt_cons_iff, UInt8.lt_iff_toNat_lt, ← UInt8.toNat_inj, UInt8.toNat_ofNat',
    UInt8.toNat_ofNat', Nat.mod_eq_of_lt hm, Nat.mod_eq_of_lt hn]

theorem toNat_val_lt (c : Char) : c.val.toNat < 0x110000 := by
  have := c.valid
  simp only [UInt32.isValidChar, Nat.isValidChar] at this
  omega

/-- The smaller character has the smaller encoding, whatever follows: its first byte is smaller, or
both encodings are equally long and the numbers differ in some group of six bits. -/
theorem encode_lt_encode {c d : Char} (h : c < d) (xs ys : List UInt8) :
    String.utf8EncodeChar c ++ xs < String.utf8EncodeChar d ++ ys := by
  have hlt : c.val.toNat < d.val.toNat := h
  have hc := toNat_val_lt c
  have hd := toNat_val_lt d
  unfold String.utf8EncodeChar
  generalize c.val.toNat = m at *
  generalize d.val.toNat = n at *
  clear h
  -- The first group of six bits, from the top, in which the two numbers differ.
  have hgroup : m / 262144 < n / 262144 ∨ m / 262144 = n / 262144 ∧ (m / 4096 < n / 4096 ∨
      m / 4096 = n / 4096 ∧ (m / 64 < n / 64 ∨ m / 64 = n / 64)) := by omega
  have hm : m / 262144 % 8 = m / 262144 := by omega
  have hn : n / 262144 % 8 = n / 262144 := by omega
  simp only
  split_ifs <;> simp only [List.cons_append, List.nil_append] <;>
    simp (disch := omega) only [ofNat_cons_lt_iff] <;> omega

theorem flatMap_encode_lt {xs ys : List Char} (h : xs < ys) :
    xs.flatMap String.utf8EncodeChar < ys.flatMap String.utf8EncodeChar := by
  induction xs generalizing ys with
  | nil =>
    cases ys with
    | nil => exact absurd h (List.lt_irrefl _)
    | cons d ys =>
      obtain ⟨b, bs, hb⟩ := List.exists_cons_of_ne_nil (String.utf8EncodeChar_ne_nil (c := d))
      rw [List.flatMap_nil, List.flatMap_cons, hb, List.cons_append]
      exact List.nil_lt_cons _ _
  | cons c xs ih =>
    cases ys with
    | nil => exact absurd h (List.not_lt_nil _)
    | cons d ys =>
      rw [List.flatMap_cons, List.flatMap_cons]
      rcases List.cons_lt_cons_iff.mp h with hcd | ⟨rfl, hrest⟩
      · exact encode_lt_encode hcd _ _
      · exact List.append_left_lt (ih hrest)

/-- Byte by byte and character by character, texts have one order. -/
theorem byteLess_iff {a b : String} : ByteLess a b ↔ a < b := by
  have hmono : ∀ {a b : String}, a < b → ByteLess a b := fun {a b} h => by
    rw [ByteLess, bytes_eq_flatMap, bytes_eq_flatMap]
    exact flatMap_encode_lt h
  refine ⟨fun h => ?_, hmono⟩
  rcases Std.lt_trichotomy a b with hlt | rfl | hgt
  · exact hlt
  · exact absurd h (List.lt_irrefl _)
  · exact absurd (hmono hgt) (List.lt_asymm h)

theorem byteLess_of_compare {a b : String} (h : compare a b = .lt) : ByteLess a b :=
  byteLess_iff.mpr (compareOfLessAndEq_eq_lt.mp h)

end ViewBinding.Text
