/-!
# Maps in the order of their keys

A finite map as the list of its entries, the keys ascending. Two maps that answer every question
alike are equal, so a map remembers nothing of the order in which it was filled.

* `get?_insert`: the last value inserted under a key is found there.
* `ext_get?`: a map is determined by its answers.
-/

namespace ViewBinding

open Std

universe u v

/-- The entry of a key in a list of entries. -/
def lookupEntry {κ : Type u} {ν : Type v} [DecidableEq κ] (k : κ) : List (κ × ν) → Option ν
  | [] => none
  | (k', v) :: rest => if k = k' then some v else lookupEntry k rest

/-- Puts an entry at its place in a sorted list, over an entry of the same key. -/
def insertEntry {κ : Type u} {ν : Type v} [Ord κ] (k : κ) (v : ν) : List (κ × ν) → List (κ × ν)
  | [] => [(k, v)]
  | (k', v') :: rest =>
    match compare k k' with
    | .lt => (k, v) :: (k', v') :: rest
    | .eq => (k, v) :: rest
    | .gt => (k', v') :: insertEntry k v rest

/-- Keys ascend along the list. -/
def Ascending {κ : Type u} {ν : Type v} [Ord κ] (entries : List (κ × ν)) : Prop :=
  entries.Pairwise fun a b => compare a.1 b.1 = .lt

section

variable {κ : Type u} {ν : Type v} [Ord κ]

theorem mem_insertEntry {k : κ} {v : ν} {entries : List (κ × ν)} {e : κ × ν}
    (h : e ∈ insertEntry k v entries) : e = (k, v) ∨ e ∈ entries := by
  induction entries with
  | nil => simpa [insertEntry] using h
  | cons head rest ih =>
    simp only [insertEntry] at h
    split at h <;> simp only [List.mem_cons] at h ⊢ <;> grind

variable [TransOrd κ] [LawfulEqOrd κ]

theorem ascending_insertEntry {k : κ} {v : ν} {entries : List (κ × ν)} (h : Ascending entries) :
    Ascending (insertEntry k v entries) := by
  induction entries with
  | nil => simp [insertEntry, Ascending]
  | cons head rest ih =>
    obtain ⟨k', v'⟩ := head
    have hhead : ∀ e ∈ rest, compare k' e.1 = .lt := (List.pairwise_cons.mp h).1
    have hrest : Ascending rest := (List.pairwise_cons.mp h).2
    simp only [insertEntry]
    split
    · next hlt =>
      refine List.pairwise_cons.mpr ⟨fun e he => ?_, h⟩
      rcases List.mem_cons.mp he with rfl | he
      · exact hlt
      · exact TransCmp.lt_trans hlt (hhead e he)
    · next heq =>
      refine List.pairwise_cons.mpr ⟨fun e he => ?_, hrest⟩
      have : k = k' := LawfulEqOrd.eq_of_compare heq
      subst this
      exact hhead e he
    · next hgt =>
      refine List.pairwise_cons.mpr ⟨fun e he => ?_, ih hrest⟩
      rcases mem_insertEntry he with rfl | he
      · exact OrientedCmp.lt_of_gt hgt
      · exact hhead e he

variable [DecidableEq κ]

omit [TransOrd κ] in
theorem lookupEntry_insertEntry {k j : κ} {v : ν} {entries : List (κ × ν)} :
    lookupEntry j (insertEntry k v entries) = if j = k then some v else lookupEntry j entries := by
  induction entries with
  | nil => simp [insertEntry, lookupEntry]
  | cons head rest ih =>
    obtain ⟨k', v'⟩ := head
    simp only [insertEntry]
    split
    · simp [lookupEntry]
    · next heq =>
      have : k = k' := LawfulEqOrd.eq_of_compare heq
      subst this
      by_cases hj : j = k <;> simp [lookupEntry, hj]
    · next hgt =>
      simp only [lookupEntry, ih]
      by_cases hj : j = k
      · subst hj
        have : j ≠ k' := fun h => by subst h; simp at hgt
        simp [this]
      · simp [hj]

omit [TransOrd κ] in
theorem lookupEntry_eq_none_of_lt {k : κ} {entries : List (κ × ν)}
    (h : ∀ e ∈ entries, compare k e.1 = .lt) : lookupEntry k entries = none := by
  induction entries with
  | nil => rfl
  | cons head rest ih =>
    have hlt := h head (by simp)
    have hne : k ≠ head.1 := fun hk => by
      rw [LawfulEqOrd.compare_eq_iff_eq.mpr hk] at hlt
      cases hlt
    simp [lookupEntry, hne, ih fun e he => h e (by simp [he])]

theorem eq_of_lookupEntry_eq {xs ys : List (κ × ν)} (hx : Ascending xs) (hy : Ascending ys)
    (h : ∀ k, lookupEntry k xs = lookupEntry k ys) : xs = ys := by
  induction xs generalizing ys with
  | nil =>
    cases ys with
    | nil => rfl
    | cons y ys => have := h y.1; simp [lookupEntry] at this
  | cons x xs ih =>
    cases ys with
    | nil => have := h x.1; simp [lookupEntry] at this
    | cons y ys =>
      have hx' := List.pairwise_cons.mp hx
      have hy' := List.pairwise_cons.mp hy
      -- If one head came first, the other list could not hold its key.
      have hkey : x.1 = y.1 := by
        have h1 := h x.1
        have h2 := h y.1
        simp only [lookupEntry, if_true] at h1 h2
        cases hc : compare x.1 y.1 with
        | eq => exact LawfulEqOrd.eq_of_compare hc
        | lt =>
          have hne : x.1 ≠ y.1 := fun e => by simp [e] at hc
          rw [if_neg hne, lookupEntry_eq_none_of_lt] at h1
          · cases h1
          · exact fun e he => TransCmp.lt_trans hc (hy'.1 e he)
        | gt =>
          have hc' : compare y.1 x.1 = .lt := OrientedCmp.lt_of_gt hc
          have hne : y.1 ≠ x.1 := fun e => by simp [e] at hc'
          rw [if_neg hne, lookupEntry_eq_none_of_lt] at h2
          · cases h2
          · exact fun e he => TransCmp.lt_trans hc' (hx'.1 e he)
      have hval : x.2 = y.2 := by
        have h1 := h x.1
        simpa [lookupEntry, hkey] using h1
      have htail : xs = ys := by
        refine ih hx'.2 hy'.2 fun k => ?_
        by_cases hk : k = x.1
        · subst hk
          rw [lookupEntry_eq_none_of_lt hx'.1,
            lookupEntry_eq_none_of_lt fun e he => hkey ▸ hy'.1 e he]
        · have := h k
          simpa [lookupEntry, hk, hkey ▸ hk] using this
      rw [htail, show x = y from Prod.ext hkey hval]

end

/-- A map whose entries stand in the order of their keys. -/
structure SortedMap (κ : Type u) (ν : Type v) [Ord κ] where
  entries : List (κ × ν)
  ascending : Ascending entries

namespace SortedMap

variable {κ : Type u} {ν : Type v} [Ord κ]

/-- The map without entries. -/
def empty : SortedMap κ ν :=
  ⟨[], List.Pairwise.nil⟩

instance : Inhabited (SortedMap κ ν) :=
  ⟨empty⟩

/-- The value under a key. -/
def get? [DecidableEq κ] (m : SortedMap κ ν) (k : κ) : Option ν :=
  lookupEntry k m.entries

/-- Some value stands under the key. -/
def contains [DecidableEq κ] (m : SortedMap κ ν) (k : κ) : Bool :=
  (m.get? k).isSome

/-- The keys, ascending. -/
def keys (m : SortedMap κ ν) : List κ :=
  m.entries.map (·.1)

/-- The values in the order of their keys. -/
def values (m : SortedMap κ ν) : List ν :=
  m.entries.map (·.2)

/-- The number of entries. -/
def size (m : SortedMap κ ν) : Nat :=
  m.entries.length

/-- No entry. -/
def isEmpty (m : SortedMap κ ν) : Bool :=
  m.entries.isEmpty

@[simp] theorem get?_empty [DecidableEq κ] (k : κ) : (empty : SortedMap κ ν).get? k = none := rfl

variable [TransOrd κ] [LawfulEqOrd κ]

/-- The map with a value put under a key. -/
def insert (m : SortedMap κ ν) (k : κ) (v : ν) : SortedMap κ ν :=
  ⟨insertEntry k v m.entries, ascending_insertEntry m.ascending⟩

variable [DecidableEq κ]

theorem get?_insert {m : SortedMap κ ν} {k j : κ} {v : ν} :
    (m.insert k v).get? j = if j = k then some v else m.get? j :=
  lookupEntry_insertEntry

theorem ext_get? {m n : SortedMap κ ν} (h : ∀ k, m.get? k = n.get? k) : m = n := by
  have := eq_of_lookupEntry_eq m.ascending n.ascending h
  cases m
  cases n
  subst this
  rfl

end SortedMap

/-- A finite set in ascending order: a map to nothing. -/
abbrev SortedSet (κ : Type u) [Ord κ] := SortedMap κ Unit

end ViewBinding
