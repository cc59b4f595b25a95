import ViewBinding.Injector.Basic
import ViewBinding.Proofs.SortedMap

/-!
# What a table knows of its claims

`IdTable.Records t claims`: the table `t` stands for the history `claims` of declarations that have
claimed each view, in order. It holds the first claimant of every view, and of a view claimed under
two symbols the symbols of all claimants. The rest of the history leaves no trace: a claim made
again under a symbol that claimed before changes nothing.

* `Records.congr`: only the first claimant and the symbols of all of them matter.
* `Records.bind`: one more claim.
* `Records.bindAll`: one declaration claims several views, some of them perhaps repeatedly.
-/

namespace ViewBinding

/-- Two of the declarations go under different symbols. -/
def Disagree (ds : List Declaration) : Prop :=
  ∃ d ∈ ds, ∃ e ∈ ds, d.symbolKey ≠ e.symbolKey

/-- Some of the declarations goes under the symbol. -/
def HasSymbol (ds : List Declaration) (key : String) : Prop :=
  ∃ d ∈ ds, d.symbolKey = key

theorem disagree_iff {ds : List Declaration} :
    Disagree ds ↔ ∃ k, HasSymbol ds k ∧ ∃ l, HasSymbol ds l ∧ k ≠ l := by
  constructor
  · rintro ⟨d, hd, e, he, hne⟩
    exact ⟨_, ⟨d, hd, rfl⟩, _, ⟨e, he, rfl⟩, hne⟩
  · rintro ⟨_, ⟨d, hd, rfl⟩, _, ⟨e, he, rfl⟩, hne⟩
    exact ⟨d, hd, e, he, hne⟩

theorem disagree_congr {ds es : List Declaration}
    (h : ∀ key, HasSymbol ds key ↔ HasSymbol es key) : Disagree ds ↔ Disagree es := by
  simp only [disagree_iff, h]

theorem hasSymbol_append_singleton {ds : List Declaration} {d : Declaration} {key : String} :
    HasSymbol (ds ++ [d]) key ↔ HasSymbol ds key ∨ d.symbolKey = key := by
  simp only [HasSymbol, List.mem_append, List.mem_singleton, or_and_right, exists_or,
    exists_eq_left]

theorem not_disagree_nil : ¬ Disagree [] := by
  rintro ⟨d, hd, -⟩
  cases hd

namespace IdTable

/-- The table stands for the claims made on each view, in order. -/
structure Records (t : IdTable) (claims : ViewId → List Declaration) : Prop where
  bound : ∀ id, t.get? id = (claims id).head?
  disputed : ∀ id, (t.disputed.get? id).isSome ↔ Disagree (claims id)
  claimants : ∀ id set, t.disputed.get? id = some set →
    ∀ key, key ∈ set.keys ↔ HasSymbol (claims id) key

variable {t : IdTable} {claims claims' : ViewId → List Declaration}

theorem records_empty : Records {} fun _ => [] where
  bound _ := rfl
  disputed _ := by simp [not_disagree_nil]
  claimants _ set h := by cases h

/-- Only the first claimant of a view and the symbols of all of them matter. -/
theorem Records.congr (h : t.Records claims) (hhead : ∀ id, (claims' id).head? = (claims id).head?)
    (hkeys : ∀ id key, HasSymbol (claims' id) key ↔ HasSymbol (claims id) key) :
    t.Records claims' where
  bound id := by rw [h.bound, hhead]
  disputed id := by rw [h.disputed, disagree_congr (hkeys id)]
  claimants id set hs key := by rw [h.claimants id set hs, hkeys]

theorem get?_disputed_claim {id j : ViewId} {key : String} :
    (t.claim id key).disputed.get? j =
      if j = id then some (((t.disputed.get? id).getD .empty).insert key ())
      else t.disputed.get? j :=
  SortedMap.get?_insert

/-- A claim under another symbol than the first one makes the view disputed. -/
theorem get?_disputed_bind {id j : ViewId} {d first : Declaration} (h : t.get? id = some first)
    (hne : first.symbolKey ≠ d.symbolKey) :
    (t.bind id d).disputed.get? j =
      if j = id then
        some ((((t.disputed.get? id).getD .empty).insert first.symbolKey ()).insert d.symbolKey ())
      else t.disputed.get? j := by
  simp only [get?] at h
  simp only [bind, h, if_neg hne, get?_disputed_claim]
  split <;> rfl

theorem get?_bind {id j : ViewId} {d : Declaration} :
    (t.bind id d).get? j = if j = id then some ((t.get? id).getD d) else t.get? j := by
  split
  · next h =>
    subst h
    cases hg : t.get? j with
    | none => exact get?_bind_of_none hg
    | some first => exact get?_bind_of_some hg
  · next h =>
    unfold bind
    split
    · simp [get?, SortedMap.get?_insert, h]
    · split <;> rfl

/-- What one claim adds to the history. -/
def claimsAfter (claims : ViewId → List Declaration) (ids : List ViewId) (d : Declaration) :
    ViewId → List Declaration :=
  fun j => if j ∈ ids then claims j ++ [d] else claims j

theorem Records.get?_none (h : t.Records claims) {id : ViewId} (hg : t.get? id = none) :
    claims id = [] := by
  rw [h.bound] at hg
  exact List.head?_eq_none_iff.mp hg

theorem Records.get?_some (h : t.Records claims) {id : ViewId} {first : Declaration}
    (hg : t.get? id = some first) : ∃ rest, claims id = first :: rest := by
  rw [h.bound] at hg
  exact List.head?_eq_some_iff.mp hg

/-- The claimants of a view are those recorded, or all go under the first symbol. -/
theorem Records.mem_claimants_getD (h : t.Records claims) {id : ViewId} {first : Declaration}
    (hg : t.get? id = some first) (key : String) :
    HasSymbol (claims id) key ↔
      key = first.symbolKey ∨ key ∈ ((t.disputed.get? id).getD .empty).keys := by
  obtain ⟨rest, hc⟩ := h.get?_some hg
  have hfirst : HasSymbol (claims id) first.symbolKey := ⟨first, by simp [hc], rfl⟩
  cases hd : t.disputed.get? id with
  | some set =>
    rw [Option.getD_some, h.claimants id set hd]
    exact ⟨.inr, fun hk => hk.elim (fun hk => hk ▸ hfirst) fun hk => hk⟩
  | none =>
    have hagree : ¬ Disagree (claims id) := by rw [← h.disputed, hd]; simp
    simp only [Option.getD_none, SortedMap.keys_empty, List.not_mem_nil, or_false]
    constructor
    · rintro ⟨e, he, rfl⟩
      by_contra hne
      exact hagree ⟨e, he, first, by simp [hc], hne⟩
    · rintro rfl
      exact hfirst

theorem claimsAfter_self {id : ViewId} {d : Declaration} :
    claimsAfter claims [id] d id = claims id ++ [d] := by
  simp [claimsAfter]

theorem claimsAfter_of_ne {id j : ViewId} {d : Declaration} (h : j ≠ id) :
    claimsAfter claims [id] d j = claims j := by
  simp [claimsAfter, h]

theorem Records.get?_bind_eq (h : t.Records claims) (id : ViewId) (d : Declaration) (j : ViewId) :
    (t.bind id d).get? j = (claimsAfter claims [id] d j).head? := by
  rw [get?_bind]
  split
  · next hj =>
    subst hj
    rw [claimsAfter_self, h.bound, List.head?_append]
    cases (claims j).head? <;> rfl
  · next hj => rw [claimsAfter_of_ne hj, h.bound]

/-- The first claim on a view cannot be disputed. -/
theorem Records.bind_of_none (h : t.Records claims) {id : ViewId} {d : Declaration}
    (hg : t.get? id = none) : (t.bind id d).Records (claimsAfter claims [id] d) := by
  have hnil := h.get?_none hg
  have hsame : (t.bind id d).disputed = t.disputed := by
    simp only [get?] at hg
    simp [IdTable.bind, hg]
  have hnone : t.disputed.get? id = none := by
    rw [← Option.not_isSome_iff_eq_none, h.disputed, hnil]
    exact not_disagree_nil
  refine ⟨h.get?_bind_eq id d, fun j => ?_, fun j set hs => ?_⟩
  · rw [hsame]
    by_cases hj : j = id
    · subst hj
      rw [claimsAfter_self, hnil, hnone]
      simp [Disagree]
    · rw [claimsAfter_of_ne hj, h.disputed]
  · rw [hsame] at hs
    have hj : j ≠ id := by
      rintro rfl
      rw [hnone] at hs
      cases hs
    rw [claimsAfter_of_ne hj]
    exact h.claimants j set hs

/-- A claim under the symbol of the first claimant changes nothing. -/
theorem Records.bind_of_eq (h : t.Records claims) {id : ViewId} {d first : Declaration}
    (hg : t.get? id = some first) (hkey : first.symbolKey = d.symbolKey) :
    (t.bind id d).Records (claimsAfter claims [id] d) := by
  obtain ⟨rest, hc⟩ := h.get?_some hg
  have hhead := h.get?_bind_eq id d
  rw [bind_same hg hkey] at hhead ⊢
  refine h.congr (fun j => by rw [← hhead, h.bound]) fun j key => ?_
  by_cases hj : j = id
  · subst hj
    rw [claimsAfter_self, hasSymbol_append_singleton]
    refine ⟨fun hk => hk.elim (fun hk => hk) fun hk => ?_, .inl⟩
    exact ⟨first, by simp [hc], hkey.trans hk⟩
  · rw [claimsAfter_of_ne hj]

/-- A claim under another symbol joins the claimants of the view. -/
theorem Records.bind_of_ne (h : t.Records claims) {id : ViewId} {d first : Declaration}
    (hg : t.get? id = some first) (hkey : first.symbolKey ≠ d.symbolKey) :
    (t.bind id d).Records (claimsAfter claims [id] d) := by
  obtain ⟨rest, hc⟩ := h.get?_some hg
  refine ⟨h.get?_bind_eq id d, fun j => ?_, fun j set hs => ?_⟩
  · rw [get?_disputed_bind hg hkey]
    by_cases hj : j = id
    · subst hj
      have hdis : Disagree (claims j ++ [d]) := ⟨first, by simp [hc], d, by simp, hkey⟩
      simp [claimsAfter_self, hdis]
    · rw [if_neg hj, claimsAfter_of_ne hj, h.disputed]
  · rw [get?_disputed_bind hg hkey] at hs
    by_cases hj : j = id
    · subst hj
      rw [if_pos rfl, Option.some.injEq] at hs
      intro key
      rw [← hs, claimsAfter_self, hasSymbol_append_singleton, h.mem_claimants_getD hg,
        SortedMap.mem_keys_insert, SortedMap.mem_keys_insert]
      tauto
    · rw [if_neg hj] at hs
      rw [claimsAfter_of_ne hj]
      exact h.claimants j set hs

/-- One more claim. -/
theorem Records.bind (h : t.Records claims) (id : ViewId) (d : Declaration) :
    (t.bind id d).Records (claimsAfter claims [id] d) := by
  cases hg : t.get? id with
  | none => exact h.bind_of_none hg
  | some first =>
    by_cases hkey : first.symbolKey = d.symbolKey
    · exact h.bind_of_eq hg hkey
    · exact h.bind_of_ne hg hkey

/-- One declaration claims several views. A view that it names twice is claimed once. -/
theorem Records.bindAll (h : t.Records claims) (ids : List ViewId) (d : Declaration) :
    (ids.foldl (fun t id => t.bind id d) t).Records (claimsAfter claims ids d) := by
  induction ids generalizing t claims with
  | nil => exact h.congr (fun _ => by simp [claimsAfter]) fun _ _ => by simp [claimsAfter]
  | cons id rest ih =>
    refine (ih (h.bind id d)).congr (fun j => ?_) fun j key => ?_
    · by_cases hj : j = id
      · subst hj
        by_cases hr : j ∈ rest <;> simp [claimsAfter, hr]
      · by_cases hr : j ∈ rest <;> simp [claimsAfter, hj, hr]
    · by_cases hj : j = id
      · subst hj
        by_cases hr : j ∈ rest <;> simp [claimsAfter, hr, HasSymbol, or_and_right, exists_or]
      · by_cases hr : j ∈ rest <;> simp [claimsAfter, hj, hr]

end IdTable

end ViewBinding
