import ViewBinding.Declaration
import ViewBinding.SortedMap

/-!
# Injectors to be generated

What the injector of one host class has to do: which view goes into which field, and the clicks of
which view are handled by which method. The first declaration that claims a view keeps it; a later
claim under another symbol makes the view disputed in that table, and nothing is generated.

* `IdTable.get?_bind_of_none`: an unclaimed view goes to its first claimant.
* `IdTable.bind_same`: a second claim under the same symbol changes nothing.
-/

namespace ViewBinding

/-- One table of an injector. `disputed` holds, for each view with several claimants, the symbols of
all of them. -/
structure IdTable where
  bound : SortedMap ViewId Declaration := .empty
  disputed : SortedMap ViewId (SortedSet String) := .empty

namespace IdTable

/-- The declaration bound to a view. -/
def get? (t : IdTable) (id : ViewId) : Option Declaration :=
  t.bound.get? id

/-- The claimants of a view so far, with one more symbol. -/
def claim (t : IdTable) (id : ViewId) (symbol : String) : IdTable :=
  { t with disputed := t.disputed.insert id (((t.disputed.get? id).getD .empty).insert symbol ()) }

/-- Lets a declaration claim a view. -/
def bind (t : IdTable) (id : ViewId) (d : Declaration) : IdTable :=
  match t.bound.get? id with
  | none => { t with bound := t.bound.insert id d }
  | some first =>
    if first.symbolKey = d.symbolKey then t
    else (t.claim id first.symbolKey).claim id d.symbolKey

theorem get?_bind_of_none {t : IdTable} {id : ViewId} {d : Declaration}
    (h : t.get? id = none) : (t.bind id d).get? id = some d := by
  simp only [get?] at h ⊢
  simp [bind, h, SortedMap.get?_insert]

theorem get?_bind_of_some {t : IdTable} {id : ViewId} {d first : Declaration}
    (h : t.get? id = some first) : (t.bind id d).get? id = some first := by
  simp only [get?] at h ⊢
  simp only [bind, h]
  split <;> simp [claim, h]

theorem bind_same {t : IdTable} {id : ViewId} {d first : Declaration}
    (h : t.get? id = some first) (hs : first.symbolKey = d.symbolKey) : t.bind id d = t := by
  simp only [get?] at h
  simp [bind, h, hs]

end IdTable

/-- Several declarations claim one view in one table of an injector. -/
structure Conflict where
  owner : String
  table : BindingTable
  id : ViewId
  claimants : List String
  deriving DecidableEq, Repr

/-- The wording of a conflict. -/
def Conflict.message (c : Conflict) : String :=
  let claimants := ", ".intercalate c.claimants
  s!"duplicate view id {c.id.display} in {c.table.display} bindings of `{c.owner}`: " ++
    s!"claimed by {claimants}"

/-- The bindings of one host class. -/
structure Injector where
  host : HostClass
  fields : IdTable := {}
  handlers : IdTable := {}

namespace Injector

/-- One of the two tables. -/
def table (i : Injector) : BindingTable → IdTable
  | .field => i.fields
  | .handler => i.handlers

/-- Lets a declaration claim a view in a table. -/
def bind (i : Injector) (table : BindingTable) (id : ViewId) (d : Declaration) : Injector :=
  match table with
  | .field => { i with fields := i.fields.bind id d }
  | .handler => { i with handlers := i.handlers.bind id d }

/-- Lets a declaration claim several views in a table. -/
def bindAll (i : Injector) (table : BindingTable) (ids : List ViewId) (d : Declaration) :
    Injector :=
  ids.foldl (fun i id => i.bind table id d) i

/-- The field of a view. -/
def field? (i : Injector) (id : ViewId) : Option Declaration :=
  i.fields.get? id

/-- The click handler of a view. -/
def handler? (i : Injector) (id : ViewId) : Option Declaration :=
  i.handlers.get? id

/-- The views of both tables, each once, ascending. -/
def ids (i : Injector) : List ViewId :=
  let fields := i.fields.bound.keys.foldl (fun s id => s.insert id ()) (.empty : SortedSet ViewId)
  (i.handlers.bound.keys.foldl (fun s id => s.insert id ()) fields).keys

/-- The number of bindings in both tables. -/
def size (i : Injector) : Nat :=
  i.fields.bound.size + i.handlers.bound.size

/-- The conflicts of one table, in the order of the views. -/
def conflictsIn (i : Injector) (table : BindingTable) : List Conflict :=
  (i.table table).disputed.entries.map fun (id, claimants) =>
    { owner := i.host.name, table, id, claimants := claimants.keys }

/-- All conflicts, those of fields first. -/
def conflicts (i : Injector) : List Conflict :=
  i.conflictsIn .field ++ i.conflictsIn .handler

/-- Some view is disputed. -/
def hasConflicts (i : Injector) : Bool :=
  !i.fields.disputed.isEmpty || !i.handlers.disputed.isEmpty

theorem hasConflicts_eq_false_iff {i : Injector} : i.hasConflicts = false ↔ i.conflicts = [] := by
  simp [hasConflicts, conflicts, conflictsIn, table, SortedMap.isEmpty]

end Injector

/-- Injectors under the names of their host classes. -/
abbrev Roster := SortedMap String Injector

namespace Roster

/-- The injector of a class: the one there is, or a new one. -/
def injectorOf (r : Roster) (host : HostClass) : Injector :=
  (r.get? host.name).getD { host }

/-- Changes the injector of a class, which there is from then on. -/
def update (r : Roster) (host : HostClass) (change : Injector → Injector) : Roster :=
  r.insert host.name (change (r.injectorOf host))

/-- No injectors, whatever there was. -/
def clear (_ : Roster) : Roster :=
  .empty

/-- All injectors in the order of their host classes, and the roster without them. -/
def drain (r : Roster) : List Injector × Roster :=
  (r.values, r.clear)

theorem get?_update {r : Roster} {host : HostClass} {change : Injector → Injector} {name : String} :
    (r.update host change).get? name =
      if name = host.name then some (change (r.injectorOf host)) else r.get? name :=
  SortedMap.get?_insert

end Roster

end ViewBinding
