import Mathlib.Data.List.Forall2
import Mathlib.Data.List.Nodup
import ViewBinding.SortedMap

/-!
# Entries, keys and values of sorted maps

What the answers of a map (`get?`) say about its entries, and the other way round.

* `mem_entries_iff`: an entry stands in the map exactly if it is found under its key.
* `keys_ascending`: the keys ascend, so none stands twice.
* `mem_keys_insert`: the keys of a map with one more entry.
* `filter_entries`: the entries with chosen keys.
* `forall₂_values`: maps with answers related key by key have values related one by one.
-/

namespace ViewBinding

open Std

universe u v

variable {κ : Type u} {ν : Type v}

theorem mem_of_lookupEntry [DecidableEq κ] {k : κ} {v : ν} {entries : List (κ × ν)}
    (h : lookupEntry k entries = some v) : (k, v) ∈ entries := by
  induction entries with
  | nil => cases h
  | cons head rest ih =>
    obtain ⟨k', v'⟩ := head
    rw [lookupEntry] at h
    split at h
    · next hk =>
      cases h
      subst hk
      exact List.mem_cons_self
    · exact List.mem_cons_of_mem _ (ih h)

variable [Ord κ]

theorem lookupEntry_of_mem [LawfulEqOrd κ] [DecidableEq κ] {k : κ} {v : ν}
    {entries : List (κ × ν)} (ha : Ascending entries) (h : (k, v) ∈ entries) :
    lookupEntry k entries = some v := by
  induction entries with
  | nil => cases h
  | cons head rest ih =>
    obtain ⟨hhead, hrest⟩ := List.pairwise_cons.mp ha
    rcases List.mem_cons.mp h with rfl | h
    · simp [lookupEntry]
    · have hlt : compare head.1 k = .lt := hhead _ h
      have hne : k ≠ head.1 := by
        rintro rfl
        rw [LawfulEqOrd.compare_eq_iff_eq.mpr rfl] at hlt
        cases hlt
      rw [lookupEntry, if_neg hne]
      exact ih hrest h

omit [Ord κ] in
/-- Of the entries with chosen keys a look-up finds those that it finds anyway. -/
theorem lookupEntry_filter [DecidableEq κ] {p : κ → Bool} (k : κ) (entries : List (κ × ν)) :
    lookupEntry k (entries.filter (p ·.1)) = if p k then lookupEntry k entries else none := by
  induction entries with
  | nil => simp [lookupEntry]
  | cons head rest ih =>
    obtain ⟨k', v⟩ := head
    by_cases hk : k = k'
    · subst hk
      cases hp : p k <;> simp [hp, lookupEntry, ih]
    · cases hp : p k' <;> simp [hp, lookupEntry, ih, hk]

namespace SortedMap

@[simp] theorem keys_empty : (empty : SortedMap κ ν).keys = [] := rfl

/-- The keys ascend strictly. -/
theorem keys_ascending (m : SortedMap κ ν) : m.keys.Pairwise (fun a b => compare a b = .lt) :=
  List.pairwise_map.mpr m.ascending

section

variable [LawfulEqOrd κ]

theorem keys_nodup (m : SortedMap κ ν) : m.keys.Nodup := by
  refine m.keys_ascending.imp fun {a b} hlt heq => ?_
  rw [heq, LawfulEqOrd.compare_eq_iff_eq.mpr rfl] at hlt
  cases hlt

variable [DecidableEq κ]

/-- The entries of a map are what it answers. -/
theorem mem_entries_iff {m : SortedMap κ ν} {k : κ} {v : ν} :
    (k, v) ∈ m.entries ↔ m.get? k = some v :=
  ⟨lookupEntry_of_mem m.ascending, mem_of_lookupEntry⟩

theorem mem_keys_iff {m : SortedMap κ ν} {k : κ} : k ∈ m.keys ↔ ∃ v, m.get? k = some v := by
  simp only [keys, List.mem_map, Prod.exists, exists_and_right, exists_eq_right, mem_entries_iff]

theorem mem_values_iff {m : SortedMap κ ν} {v : ν} : v ∈ m.values ↔ ∃ k, m.get? k = some v := by
  simp only [values, List.mem_map, Prod.exists, exists_eq_right, mem_entries_iff]

theorem mem_keys_iff_isSome {m : SortedMap κ ν} {k : κ} : k ∈ m.keys ↔ (m.get? k).isSome := by
  rw [mem_keys_iff, Option.isSome_iff_exists]

variable [TransOrd κ]

theorem mem_keys_insert {m : SortedMap κ ν} {k j : κ} {v : ν} :
    j ∈ (m.insert k v).keys ↔ j = k ∨ j ∈ m.keys := by
  rw [mem_keys_iff_isSome, mem_keys_iff_isSome, get?_insert]
  split
  · next h => simp [h]
  · next h => simp [h]

/-- Keys put into a set one after the other. -/
theorem mem_keys_foldl_insert {s : SortedSet κ} {ks : List κ} {k : κ} :
    k ∈ (ks.foldl (fun s k => s.insert k ()) s).keys ↔ k ∈ s.keys ∨ k ∈ ks := by
  induction ks generalizing s with
  | nil => simp
  | cons head rest ih =>
    rw [List.foldl_cons, ih, mem_keys_insert, List.mem_cons]
    tauto

omit [TransOrd κ] [DecidableEq κ] in
theorem entries_nodup (m : SortedMap κ ν) : m.entries.Nodup :=
  m.keys_nodup.of_map

omit [TransOrd κ] in
/-- The entries of a map, read off any list that holds each of its keys. -/
theorem filterMap_get?_perm {m : SortedMap κ ν} {ks : List κ} (hnd : ks.Nodup)
    (hks : ∀ k ∈ m.keys, k ∈ ks) :
    (ks.filterMap fun k => (m.get? k).map fun v => (k, v)).Perm m.entries := by
  refine (List.perm_ext_iff_of_nodup (hnd.filterMap fun k k' e hk hk' => ?_) m.entries_nodup).mpr
    fun e => ?_
  · obtain ⟨v, -, rfl⟩ := Option.map_eq_some_iff.mp hk
    obtain ⟨v', -, he⟩ := Option.map_eq_some_iff.mp hk'
    exact (Prod.mk.inj he).1.symm
  · obtain ⟨k, v⟩ := e
    rw [List.mem_filterMap, mem_entries_iff]
    constructor
    · rintro ⟨k', -, he⟩
      obtain ⟨v', hv, he⟩ := Option.map_eq_some_iff.mp he
      cases he
      exact hv
    · intro hv
      exact ⟨k, hks k (mem_keys_iff.mpr ⟨v, hv⟩), by rw [hv, Option.map_some]⟩

/-! ## Two maps -/

omit [DecidableEq κ] in
/-- The keys of a map are determined by which they are. -/
theorem keys_congr {μ : Type*} {m : SortedMap κ ν} {n : SortedMap κ μ}
    (h : ∀ k, k ∈ m.keys ↔ k ∈ n.keys) : m.keys = n.keys := by
  have hperm : m.keys.Perm n.keys := (List.perm_ext_iff_of_nodup m.keys_nodup n.keys_nodup).mpr h
  refine hperm.eq_of_pairwise ?_ m.keys_ascending n.keys_ascending
  intro a b _ _ hab hba
  rw [OrientedCmp.gt_of_lt hab] at hba
  cases hba

theorem ext_keys {s t : SortedSet κ} (h : ∀ k, k ∈ s.keys ↔ k ∈ t.keys) : s = t := by
  refine ext_get? fun k => ?_
  have hk := h k
  rw [mem_keys_iff_isSome, mem_keys_iff_isSome] at hk
  cases hs : s.get? k with
  | none =>
    have ht : ¬ (t.get? k).isSome := fun ht => by simp [hs, ht] at hk
    exact (Option.not_isSome_iff_eq_none.mp ht).symm
  | some u =>
    rw [hs] at hk
    exact (Option.eq_some_of_isSome (hk.mp rfl)).symm

/-- A map that answers alike for chosen keys, and for no others, holds the entries with these
keys. -/
theorem filter_entries {m n : SortedMap κ ν} {p : κ → Bool}
    (h : ∀ k, n.get? k = if p k then m.get? k else none) :
    m.entries.filter (p ·.1) = n.entries := by
  apply eq_of_lookupEntry_eq (m.ascending.filter _) n.ascending
  intro k
  rw [lookupEntry_filter]
  exact (h k).symm

omit [TransOrd κ] in
theorem map_some_values (m : SortedMap κ ν) : m.values.map some = m.keys.map m.get? := by
  rw [values, keys, List.map_map, List.map_map]
  exact List.map_congr_left fun e he => (mem_entries_iff.mp he).symm

/-- Maps with answers related key by key have values related one by one. -/
theorem forall₂_values {μ : Type*} {R : ν → μ → Prop} {m : SortedMap κ ν} {n : SortedMap κ μ}
    (h : ∀ k, Option.Rel R (m.get? k) (n.get? k)) : List.Forall₂ R m.values n.values := by
  have hkeys : m.keys = n.keys := keys_congr fun k => by
    rw [mem_keys_iff_isSome, mem_keys_iff_isSome]
    have hk := h k
    generalize m.get? k = x at hk ⊢
    generalize n.get? k = y at hk ⊢
    cases hk <;> rfl
  have hsome : List.Forall₂ (Option.Rel R) (m.values.map some) (n.values.map some) := by
    rw [map_some_values, map_some_values, hkeys, List.forall₂_map_left_iff,
      List.forall₂_map_right_iff, List.forall₂_same]
    exact fun k _ => h k
  rw [List.forall₂_map_left_iff, List.forall₂_map_right_iff] at hsome
  exact hsome.imp fun _ _ hrel => Option.rel_some_some.mp hrel

end

end SortedMap

end ViewBinding
