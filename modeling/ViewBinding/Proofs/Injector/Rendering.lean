import Mathlib.Data.List.Dedup
import Mathlib.Data.List.Induction
import ViewBinding.Proofs.Gathering.Summary
import ViewBinding.Proofs.Injector.Statements

/-!
# The source of an injector, read off its claims

An injector comes about by one claim after the other. Whether it has a source, and which, can be
told from the list of these claims: no table has to be kept and nothing has to be written step by
step.

* `Claim.statements`, `Claim.disputed`: the statements and the disputes of a list of claims.
* `Injector.records_ofClaims`: the tables of an injector stand for the claims made on it.
* `Injector.ids_ofClaims`: its views are those claimed, ascending and each once.
* `Injector.source?_ofClaims`: its source, line by line, or the reason why there is none.
-/

namespace ViewBinding

open Code

/-- A declaration claims a view in one of the tables. -/
structure Claim where
  table : BindingTable
  id : ViewId
  declaration : Declaration
  deriving DecidableEq, Repr

instance (ds : List Declaration) : Decidable (Disagree ds) :=
  inferInstanceAs (Decidable (∃ d ∈ ds, ∃ e ∈ ds, d.symbolKey ≠ e.symbolKey))

namespace Claim

/-- Who claims a view in a table, in the order of the claims. -/
def claimantsOf (claims : List Claim) (table : BindingTable) (id : ViewId) : List Declaration :=
  (claims.filter fun c => c.table = table ∧ c.id = id).map (·.declaration)

/-- The views claimed in either table, ascending by number and each once. -/
def views (claims : List Claim) : List ViewId :=
  (claims.map (·.id)).dedup.mergeSort fun a b => a.toInt ≤ b.toInt

/-- The views of either table that are claimed under two symbols, each once. -/
def disputed (claims : List Claim) : List (BindingTable × ViewId) :=
  (claims.map fun c => (c.table, c.id)).dedup.filter fun p => Disagree (claimantsOf claims p.1 p.2)

/-- The statements that the claims call for: by ascending view, the first field that claims the
view before the first method that does. -/
def statements (claims : List Claim) : List Statement :=
  (views claims).flatMap fun id =>
    ((claimantsOf claims .field id).head?.map fun d => .assign d.name d.type id).toList ++
      ((claimantsOf claims .handler id).head?.map fun d => .listen d.name d.params id).toList

variable {claims : List Claim} {table : BindingTable} {id : ViewId}

theorem mem_claimantsOf {d : Declaration} :
    d ∈ claimantsOf claims table id ↔ ⟨table, id, d⟩ ∈ claims := by
  simp only [claimantsOf, List.mem_map, List.mem_filter, decide_eq_true_eq]
  constructor
  · rintro ⟨c, ⟨hc, rfl, rfl⟩, rfl⟩
    exact hc
  · intro h
    exact ⟨_, ⟨h, rfl, rfl⟩, rfl⟩

theorem claimantsOf_concat (c : Claim) :
    claimantsOf (claims ++ [c]) table id =
      if c.table = table ∧ c.id = id then claimantsOf claims table id ++ [c.declaration]
      else claimantsOf claims table id := by
  unfold claimantsOf
  rw [List.filter_append, List.map_append]
  by_cases h : c.table = table ∧ c.id = id <;> simp [h]

/-- A view is claimed exactly if there is a claimant in one of the tables. -/
theorem mem_views :
    id ∈ views claims ↔
      claimantsOf claims .field id ≠ [] ∨ claimantsOf claims .handler id ≠ [] := by
  rw [views, List.mem_mergeSort, List.mem_dedup, List.mem_map]
  simp only [ne_eq, List.eq_nil_iff_forall_not_mem, not_forall, not_not, mem_claimantsOf]
  constructor
  · rintro ⟨⟨table, id, d⟩, hc, rfl⟩
    cases table with
    | field => exact .inl ⟨d, hc⟩
    | handler => exact .inr ⟨d, hc⟩
  · rintro (⟨d, hc⟩ | ⟨d, hc⟩)
    · exact ⟨_, hc, rfl⟩
    · exact ⟨_, hc, rfl⟩

theorem views_nodup : (views claims).Nodup :=
  (List.mergeSort_perm _ _).nodup_iff.mpr (List.nodup_dedup _)

theorem views_ascending : (views claims).Pairwise fun a b => a.toInt ≤ b.toInt := by
  refine (List.pairwise_mergeSort ?_ ?_ _).imp ?_
  · intro a b c hab hbc
    simp only [decide_eq_true_eq] at hab hbc ⊢
    omega
  · intro a b
    simp only [Bool.or_eq_true, decide_eq_true_eq]
    omega
  · intro a b hab
    simpa using hab

theorem mem_disputed {p : BindingTable × ViewId} :
    p ∈ disputed claims ↔ Disagree (claimantsOf claims p.1 p.2) := by
  rw [disputed, List.mem_filter, decide_eq_true_eq, and_iff_right_iff_imp]
  rintro ⟨d, hd, -⟩
  exact List.mem_dedup.mpr (List.mem_map.mpr ⟨_, mem_claimantsOf.mp hd, rfl⟩)

theorem disputed_nodup : (disputed claims).Nodup :=
  (List.nodup_dedup _).filter _

end Claim

namespace Injector

/-- The injector of a class after some claims. -/
def ofClaims (host : HostClass) (claims : List Claim) : Injector :=
  claims.foldl (fun i c => i.bind c.table c.id c.declaration) { host }

variable {host : HostClass} {claims : List Claim}

theorem ofClaims_concat (c : Claim) :
    ofClaims host (claims ++ [c]) = (ofClaims host claims).bind c.table c.id c.declaration := by
  rw [ofClaims, List.foldl_append]
  rfl

theorem host_bind (i : Injector) (table : BindingTable) (id : ViewId) (d : Declaration) :
    (i.bind table id d).host = i.host := by
  cases table <;> rfl

theorem table_bind (i : Injector) (table t : BindingTable) (id : ViewId) (d : Declaration) :
    (i.bind table id d).table t = if t = table then (i.table t).bind id d else i.table t := by
  cases table <;> cases t <;> rfl

theorem host_ofClaims : (ofClaims host claims).host = host := by
  induction claims using List.reverseRecOn with
  | nil => rfl
  | append_singleton claims c ih => rw [ofClaims_concat, host_bind, ih]

/-- Each table of the injector stands for the claims made in it. -/
theorem records_table_ofClaims (t : BindingTable) :
    ((ofClaims host claims).table t).Records (Claim.claimantsOf claims t) := by
  induction claims using List.reverseRecOn with
  | nil => cases t <;> exact IdTable.records_empty
  | append_singleton claims c ih =>
    rw [ofClaims_concat, table_bind]
    by_cases ht : t = c.table
    · subst ht
      have hclaims : Claim.claimantsOf (claims ++ [c]) c.table =
          IdTable.claimsAfter (Claim.claimantsOf claims c.table) [c.id] c.declaration := by
        funext id
        by_cases hid : id = c.id
        · subst hid
          rw [IdTable.claimsAfter_self, Claim.claimantsOf_concat, if_pos ⟨rfl, rfl⟩]
        · rw [IdTable.claimsAfter_of_ne hid, Claim.claimantsOf_concat,
            if_neg fun h => hid h.2.symm]
      rw [if_pos rfl, hclaims]
      exact ih.bind c.id c.declaration
    · have hclaims : Claim.claimantsOf (claims ++ [c]) t = Claim.claimantsOf claims t := by
        funext id
        rw [Claim.claimantsOf_concat, if_neg fun h => ht h.1.symm]
      rw [if_neg ht, hclaims]
      exact ih

/-- The tables of an injector stand for the claims made on it. -/
theorem records_ofClaims :
    (ofClaims host claims).Records fun kind => Claim.claimantsOf claims kind.table :=
  fun kind => records_table_ofClaims kind.table

theorem get?_ofClaims (t : BindingTable) (id : ViewId) :
    ((ofClaims host claims).table t).get? id = (Claim.claimantsOf claims t id).head? :=
  (records_table_ofClaims t).bound id

/-- The views of an injector are those claimed, ascending and each once. -/
theorem ids_ofClaims : (ofClaims host claims).ids = Claim.views claims := by
  have hmem : ∀ id, id ∈ (ofClaims host claims).ids ↔ id ∈ Claim.views claims := by
    intro id
    have hkeys : ∀ t, id ∈ ((ofClaims host claims).table t).bound.keys ↔
        Claim.claimantsOf claims t id ≠ [] := by
      intro t
      rw [SortedMap.mem_keys_iff_isSome, ← IdTable.get?, get?_ofClaims, List.isSome_head?]
    rw [mem_ids, Claim.mem_views, ← hkeys, ← hkeys]
    rfl
  have hperm : (ofClaims host claims).ids.Perm (Claim.views claims) :=
    (List.perm_ext_iff_of_nodup ids_nodup Claim.views_nodup).mpr hmem
  have hascending : (ofClaims host claims).ids.Pairwise fun a b => a.toInt ≤ b.toInt :=
    (SortedMap.keys_ascending _).imp fun hlt => Int.le_of_lt (toInt_lt_of_compare hlt)
  refine hperm.eq_of_pairwise ?_ hascending Claim.views_ascending
  intro a b _ _ hab hba
  exact Int32.toInt_inj.mp (Int.le_antisymm hab hba)

theorem statements_ofClaims : (ofClaims host claims).statements = Claim.statements claims := by
  have hfield : ∀ id,
      (ofClaims host claims).field? id = (Claim.claimantsOf claims .field id).head? :=
    get?_ofClaims .field
  have hhandler : ∀ id,
      (ofClaims host claims).handler? id = (Claim.claimantsOf claims .handler id).head? :=
    get?_ofClaims .handler
  simp only [statements, Claim.statements, ids_ofClaims, hfield, hhandler]

/-- The conflicts of an injector are the disputes of its claims. -/
theorem conflicts_ofClaims :
    ((ofClaims host claims).conflicts.map fun c => (c.table, c.id)).Perm
      (Claim.disputed claims) := by
  have hnodup : ((ofClaims host claims).conflicts.map fun c => (c.table, c.id)).Nodup :=
    List.pairwise_map.mpr (conflicts_ordered.imp Conflict.Before.ne)
  refine (List.perm_ext_iff_of_nodup hnodup Claim.disputed_nodup).mpr ?_
  rintro ⟨table, id⟩
  have hconflict : ∀ kind : AnnotationKind,
      (∃ c ∈ (ofClaims host claims).conflicts, c.table = kind.table ∧ c.id = id) ↔
        Disagree (Claim.claimantsOf claims kind.table id) :=
    fun kind => records_ofClaims.exists_conflict_iff kind id
  simp only [List.mem_map, Prod.mk.injEq, Claim.mem_disputed]
  cases table with
  | field => exact hconflict .bindView
  | handler => exact hconflict .onClick

/-! ## When there is no source -/

section

variable {i : Injector} {settings : Settings} {version : SourceVersion}

theorem source?_eq_conflicted_iff {owner : String} {count : Nat} :
    i.source? settings version = .error (.conflicted owner count) ↔
      i.conflicts ≠ [] ∧ owner = i.host.name ∧ count = i.conflicts.length := by
  rw [ne_eq, ← hasConflicts_eq_false_iff, source?]
  cases hc : i.hasConflicts with
  | true => simp [eq_comm]
  | false =>
    cases hn : Java.checkIdentifier (i.host.injectorName settings.classSuffix) <;> simp [hn]

theorem source?_eq_invalidName_iff {name : String} {fault : Java.IdentifierFault} :
    i.source? settings version = .error (.invalidName name fault) ↔
      i.conflicts = [] ∧ name = i.host.injectorName settings.classSuffix ∧
        Java.checkIdentifier name = .error fault := by
  rw [← hasConflicts_eq_false_iff, source?]
  cases hc : i.hasConflicts with
  | true => simp
  | false =>
    cases hn : Java.checkIdentifier (i.host.injectorName settings.classSuffix) with
    | ok =>
      simp only [hn]
      constructor
      · intro h
        cases h
      · rintro ⟨-, rfl, hfault⟩
        rw [hn] at hfault
        cases hfault
    | error found =>
      simp only [hn]
      constructor
      · intro h
        cases h
        exact ⟨trivial, rfl, hn⟩
      · rintro ⟨-, rfl, hfault⟩
        rw [hn] at hfault
        cases hfault
        rfl

end

/-- What becomes of an injector after any claims on any class. Disputed views keep it from having a
source, then a name that is none; otherwise the source has the lines that the claims call for. -/
theorem source?_ofClaims (host : HostClass) (claims : List Claim) (settings : Settings)
    (version : SourceVersion) :
    let name := host.binaryName ++ settings.classSuffix
    let outcome := (ofClaims host claims).source? settings version
    ((ofClaims host claims).conflicts.map fun c => (c.table, c.id)).Perm (Claim.disputed claims) ∧
    (∀ owner count, outcome = .error (.conflicted owner count) ↔
      Claim.disputed claims ≠ [] ∧ owner = host.name ∧ count = (Claim.disputed claims).length) ∧
    (∀ text fault, outcome = .error (.invalidName text fault) ↔
      Claim.disputed claims = [] ∧ ¬ Java.IsIdentifier name ∧ text = name ∧
        Java.checkIdentifier name = .error fault) ∧
    ∀ text, outcome = .ok text ↔
      Claim.disputed claims = [] ∧ Java.IsIdentifier name ∧
        text = Line.printAll (indentUnit settings)
          (injectorLines settings version host (Claim.statements claims)) := by
  intro name outcome
  have hperm : ((ofClaims host claims).conflicts.map fun c => (c.table, c.id)).Perm
      (Claim.disputed claims) := conflicts_ofClaims
  have hcount : (ofClaims host claims).conflicts.length = (Claim.disputed claims).length := by
    rw [← hperm.length_eq, List.length_map]
  have hnil : (ofClaims host claims).conflicts = [] ↔ Claim.disputed claims = [] := by
    rw [← List.length_eq_zero_iff, hcount, List.length_eq_zero_iff]
  have hname : (ofClaims host claims).host.injectorName settings.classSuffix = name := by
    rw [host_ofClaims]
    rfl
  refine ⟨hperm, ?_, ?_, ?_⟩
  · intro owner count
    show (ofClaims host claims).source? settings version = .error (.conflicted owner count) ↔ _
    rw [source?_eq_conflicted_iff, ne_eq, hnil, host_ofClaims, hcount]
  · intro text fault
    show (ofClaims host claims).source? settings version = .error (.invalidName text fault) ↔ _
    rw [source?_eq_invalidName_iff, hnil, hname]
    constructor
    · rintro ⟨hdisputed, rfl, hfault⟩
      refine ⟨hdisputed, ?_, rfl, hfault⟩
      rw [← Java.checkIdentifier_eq_ok_iff, hfault]
      rintro ⟨⟩
    · rintro ⟨hdisputed, -, rfl, hfault⟩
      exact ⟨hdisputed, rfl, hfault⟩
  · intro text
    show (ofClaims host claims).source? settings version = .ok text ↔ _
    rw [source?_eq_ok, hnil, hname, render_classSteps, host_ofClaims, statements_ofClaims]

end Injector

end ViewBinding
