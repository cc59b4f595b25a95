/-!
# Decimal digits

* `mem_toString`: an integer is written with digits and a sign.
* `toString_inj`: different integers have different digits.
-/

namespace ViewBinding.Text

theorem toList_toString_negSucc (n : Nat) :
    (toString (Int.negSucc n)).toList = '-' :: (n + 1).repr.toList := by
  have hcut : (toString (Int.negSucc n)).toList = "-".toList ++ (n + 1).repr.toList :=
    String.toList_append ..
  rw [hcut]
  rfl

theorem isDigit_of_mem_repr {n : Nat} {c : Char} (h : c ∈ n.repr.toList) : c.isDigit = true := by
  rw [Nat.toList_repr] at h
  exact Nat.isDigit_of_mem_toDigits (by decide) (by decide) h

theorem mem_toString {n : Int} {c : Char} (h : c ∈ (toString n).toList) :
    c = '-' ∨ c.isDigit = true := by
  cases n with
  | ofNat n => exact .inr (isDigit_of_mem_repr h)
  | negSucc n =>
    rw [toList_toString_negSucc, List.mem_cons] at h
    exact h.imp_right isDigit_of_mem_repr

theorem repr_inj {n m : Nat} (h : n.repr.toList = m.repr.toList) : n = m := by
  rw [Nat.toList_repr, Nat.toList_repr] at h
  rw [← Nat.ofDigitChars_ten_toDigits (n := n), h, Nat.ofDigitChars_ten_toDigits]

/-- Different numbers have different digits. -/
theorem toString_inj {n m : Int} (h : toString n = toString m) : n = m := by
  have hlist := congrArg String.toList h
  have hsign : ∀ a b : Nat, a.repr.toList ≠ '-' :: b.repr.toList := fun a b heq => by
    have hdigit := isDigit_of_mem_repr (n := a) (c := '-') (by rw [heq]; exact List.mem_cons_self)
    cases hdigit
  cases n with
  | ofNat n =>
    cases m with
    | ofNat m => exact congrArg Int.ofNat (repr_inj hlist)
    | negSucc m =>
      rw [toList_toString_negSucc] at hlist
      exact absurd hlist (hsign n (m + 1))
  | negSucc n =>
    rw [toList_toString_negSucc] at hlist
    cases m with
    | ofNat m => exact absurd hlist.symm (hsign m (n + 1))
    | negSucc m =>
      rw [toList_toString_negSucc] at hlist
      have hnat := repr_inj (List.cons.inj hlist).2
      rw [Nat.succ.inj hnat]

end ViewBinding.Text
