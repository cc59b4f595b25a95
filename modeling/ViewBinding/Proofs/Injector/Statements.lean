import Mathlib.Data.List.Perm.Basic
import ViewBinding.Injector.Emission
import ViewBinding.Proofs.Injector.Layout
import ViewBinding.Proofs.SortedMap

/-!
# The statements of an injector

An injector has one statement for each entry of its tables. Its source goes through the views of
both tables in one list, and for each view looks into either table.

* `Injector.statements_perm`: the statements of an injector, table by table.
* `Injector.generate_eq_ok`: a generated source holds these statements and counts them.
-/

namespace ViewBinding

open Code

/-- The statement that binds a declaration to a view, in the table of the annotation. -/
def Statement.ofClaim (kind : AnnotationKind) (d : Declaration) (id : ViewId) : Statement :=
  match kind with
  | .bindView => .assign d.name d.type id
  | .onClick => .listen d.name d.params id

namespace Injector

variable {i : Injector}

theorem mem_ids {id : ViewId} :
    id ∈ i.ids ↔ id ∈ i.fields.bound.keys ∨ id ∈ i.handlers.bound.keys := by
  rw [ids, SortedMap.mem_keys_foldl_insert, SortedMap.mem_keys_foldl_insert, SortedMap.keys_empty]
  simp

theorem ids_nodup : i.ids.Nodup := SortedMap.keys_nodup _

/-- The views of a table are among those of the injector. -/
theorem mem_ids_of_mem_table (kind : AnnotationKind) {id : ViewId}
    (h : id ∈ (i.table kind.table).bound.keys) : id ∈ i.ids := by
  rw [mem_ids]
  cases kind with
  | bindView => exact .inl h
  | onClick => exact .inr h

/-- The statements of one table. -/
def statementsOf (i : Injector) (kind : AnnotationKind) : List Statement :=
  (i.table kind.table).bound.entries.map fun e => .ofClaim kind e.2 e.1

/-- Looking up each view of the injector in a table yields the statements of the table. -/
theorem flatMap_ids_perm (kind : AnnotationKind) :
    (i.ids.flatMap fun id =>
      (((i.table kind.table).get? id).map fun d => Statement.ofClaim kind d id).toList).Perm
        (i.statementsOf kind) := by
  have hentries := SortedMap.filterMap_get?_perm i.ids_nodup fun _ => i.mem_ids_of_mem_table kind
  have hmap := hentries.map fun e : ViewId × Declaration => Statement.ofClaim kind e.2 e.1
  rw [List.map_filterMap] at hmap
  simp only [Option.map_map] at hmap
  rw [← List.filterMap_eq_flatMap_toList]
  exact hmap

/-- The statements of an injector, table by table. -/
theorem statements_perm :
    i.statements.Perm (i.statementsOf .bindView ++ i.statementsOf .onClick) :=
  (List.flatMap_append_perm i.ids _ _).symm.trans
    ((flatMap_ids_perm .bindView).append (flatMap_ids_perm .onClick))

theorem length_statements : i.statements.length = i.size := by
  rw [i.statements_perm.length_eq, List.length_append, statementsOf, statementsOf, List.length_map,
    List.length_map]
  rfl

/-- A generated source belongs to the class of the injector, counts its statements and holds their
lines. -/
theorem generate_eq_ok {settings : Settings} {version : SourceVersion} {g : Generated}
    (h : i.generate settings version = .ok g) :
    g.owner = i.host.name ∧ g.bindings = i.statements.length ∧
      g.contents = Line.printAll (indentUnit settings)
        (injectorLines settings version i.host i.statements) := by
  unfold generate at h
  split at h
  · cases h
  · next contents hsource =>
    cases h
    obtain ⟨-, -, htext⟩ := source?_eq_ok.mp hsource
    exact ⟨rfl, length_statements.symm, by rw [htext, render_classSteps]⟩

end Injector

end ViewBinding
