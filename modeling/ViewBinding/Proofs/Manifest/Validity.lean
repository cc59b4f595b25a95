import Mathlib.Data.List.Nodup
import ViewBinding.Manifest.Validation

/-!
# Valid manifests

Validation collects problems with the names and the symbols that it has seen so far. A manifest
without problems is one whose classes have different names, each class being valid, and a valid
class is one whose own members have different symbols, each member being valid.

* `Manifest.check_eq_ok_iff`: validation accepts exactly the valid manifests.
* `Manifest.Valid.class_eq`: a class is known by its name.
* `ClassEntry.Valid.member_eq`: a member of a class is known by its symbol.
-/

namespace ViewBinding

namespace Problems

variable {p child : Problems}

theorem messages_add {message : String} : (p.add message).messages = p.messages ++ [message] := rfl

theorem messages_addChild_eq_nil_iff {route : String} :
    (p.addChild route child).messages = [] ↔ p.messages = [] ∧ child.messages = [] := by
  rw [addChild, List.append_eq_nil_iff, List.map_eq_nil_iff]

theorem messages_addResult_eq_nil_iff {ε : Type} {wording : ε → String} {r : Except ε Unit} :
    (p.addResult wording r).messages = [] ↔ p.messages = [] ∧ r = .ok () := by
  cases r with
  | ok => simp [addResult]
  | error e => simp [addResult, messages_add]

end Problems

/-! ## Members -/

namespace MemberEntry

/-- The type of a member is a declared type. A constructor may have none and a method `void`. -/
def HasType (m : MemberEntry) : Prop :=
  if Text.isBlankText m.type then m.kind = .constructor
  else m.kind = .method ∧ m.type = "void" ∨ Java.checkType m.type = .ok ()

/-- The name of the member is legal, and so are the types written with it. -/
structure Valid (m : MemberEntry) : Prop where
  name : Java.IsIdentifier m.name
  type : m.HasType
  params : ∀ type ∈ m.params, Text.isBlankText type = false ∧ Java.checkType type = .ok ()

variable {m : MemberEntry}

theorem typeProblems_eq_nil_iff : m.typeProblems.messages = [] ↔ m.HasType := by
  unfold typeProblems HasType
  split
  · split
    · next hk => simp [hk]
    · next hk => simp [hk, Problems.messages_add]
  · split
    · next hv =>
      have hvoid : m.kind = .method ∧ m.type = "void" := by simpa using hv
      simp [hvoid]
    · next hv =>
      have hno : ¬ (m.kind = .method ∧ m.type = "void") := by simpa using hv
      simp [Problems.messages_addResult_eq_nil_iff, hno]

theorem addParamProblems_eq_nil_iff {p : Problems} {type : String} :
    (addParamProblems p type).messages = [] ↔
      p.messages = [] ∧ Text.isBlankText type = false ∧ Java.checkType type = .ok () := by
  unfold addParamProblems
  cases hb : Text.isBlankText type with
  | true => simp [Problems.messages_add]
  | false => simp [Problems.messages_addResult_eq_nil_iff]

theorem foldl_addParamProblems_eq_nil_iff {p : Problems} {params : List String} :
    (params.foldl addParamProblems p).messages = [] ↔ p.messages = [] ∧
      ∀ type ∈ params, Text.isBlankText type = false ∧ Java.checkType type = .ok () := by
  induction params generalizing p with
  | nil => simp
  | cons type rest ih =>
    rw [List.foldl_cons, ih, addParamProblems_eq_nil_iff, List.forall_mem_cons]
    tauto

theorem problems_eq_nil_iff : m.problems.messages = [] ↔ m.Valid := by
  rw [problems, foldl_addParamProblems_eq_nil_iff, List.append_eq_nil_iff,
    Problems.messages_addResult_eq_nil_iff, typeProblems_eq_nil_iff,
    Java.checkIdentifier_eq_ok_iff]
  constructor
  · rintro ⟨⟨⟨-, hname⟩, htype⟩, hparams⟩
    exact ⟨hname, htype, hparams⟩
  · rintro ⟨hname, htype, hparams⟩
    exact ⟨⟨⟨rfl, hname⟩, htype⟩, hparams⟩

end MemberEntry

/-! ## Classes -/

namespace ClassEntry

theorem host_name (c : ClassEntry) : c.host.name = c.name := by
  unfold host
  split <;> rfl

/-- The symbol of a member in a class. -/
def symbolOf (host : HostClass) (m : MemberEntry) : String :=
  (m.declaration host none).symbolKey

/-- The names and the members of the class are legal, and its own members have symbols of their
own. -/
structure Valid (c : ClassEntry) : Prop where
  name : Java.IsQualifiedName c.name
  package : c.packageProblem? = none
  members : ∀ m ∈ c.members, m.Valid
  symbols : ((c.members.filter (·.isClassMember)).map (symbolOf c.host)).Nodup

/-- Members have no problems if each of them is valid and no symbol has been seen before. -/
theorem memberProblems_eq_nil_iff {host : HostClass} {p : Problems} {seen : List String}
    {ms : List MemberEntry} :
    (memberProblems host p seen ms).messages = [] ↔
      p.messages = [] ∧ (∀ m ∈ ms, m.Valid) ∧
      ((ms.filter (·.isClassMember)).map (symbolOf host)).Nodup ∧
      ((ms.filter (·.isClassMember)).map (symbolOf host)).Disjoint seen := by
  -- The symbols seen so far take part in the statement, so that one member adds its own.
  induction ms generalizing p seen with
  | nil => simp [memberProblems]
  | cons m rest ih =>
    rw [memberProblems]
    cases hm : m.isClassMember with
    | false =>
      simp only [Bool.false_eq_true, if_false, ih, Problems.messages_addChild_eq_nil_iff,
        MemberEntry.problems_eq_nil_iff, List.forall_mem_cons, List.filter_cons, hm]
      tauto
    | true =>
      have hown : (if seen.contains (symbolOf host m) then m.problems.add "declared more than once"
          else m.problems).messages = [] ↔ m.Valid ∧ symbolOf host m ∉ seen := by
        by_cases hs : symbolOf host m ∈ seen
        · simp [hs, Problems.messages_add]
        · simp [hs, MemberEntry.problems_eq_nil_iff]
      simp only [if_true, ih, Problems.messages_addChild_eq_nil_iff, List.forall_mem_cons,
        List.filter_cons, hm, List.map_cons, List.nodup_cons, List.disjoint_cons_left,
        List.disjoint_cons_right]
      rw [← symbolOf, hown]
      tauto

theorem problems_eq_nil_iff {c : ClassEntry} : c.problems.messages = [] ↔ c.Valid := by
  rw [problems, memberProblems_eq_nil_iff]
  cases hp : c.packageProblem? with
  | some message =>
    constructor
    · rintro ⟨h, -⟩
      rw [Problems.messages_add] at h
      exact absurd h (List.append_ne_nil_of_right_ne_nil _ (List.cons_ne_nil _ _))
    · intro h
      rw [h.package] at hp
      cases hp
  | none =>
    rw [Problems.messages_addResult_eq_nil_iff, Java.checkQualifiedName_eq_ok_iff]
    constructor
    · rintro ⟨⟨-, hname⟩, hmembers, hnd, -⟩
      exact ⟨hname, hp, hmembers, hnd⟩
    · rintro ⟨hname, -, hmembers, hnd⟩
      exact ⟨⟨rfl, hname⟩, hmembers, hnd, List.disjoint_nil_right _⟩

/-- A member of a class is known by its symbol. -/
theorem Valid.member_eq {c : ClassEntry} (h : c.Valid) {m e : MemberEntry} (hm : m ∈ c.members)
    (he : e ∈ c.members) (hmc : m.isClassMember = true) (hec : e.isClassMember = true)
    (hkey : symbolOf c.host m = symbolOf c.host e) : m = e :=
  List.inj_on_of_nodup_map h.symbols (List.mem_filter.mpr ⟨hm, hmc⟩)
    (List.mem_filter.mpr ⟨he, hec⟩) hkey

end ClassEntry

/-! ## Manifests -/

namespace Manifest

/-- The classes have names of their own, and each of them is valid. -/
structure Valid (m : Manifest) : Prop where
  names : (m.classes.map (·.name)).Nodup
  classes : ∀ c ∈ m.classes, c.Valid

theorem classProblems_eq_nil_iff {p : Problems} {seen : List String} {cs : List ClassEntry} :
    (classProblems p seen cs).messages = [] ↔
      p.messages = [] ∧ (∀ c ∈ cs, c.Valid) ∧ (cs.map (·.name)).Nodup ∧
      (cs.map (·.name)).Disjoint seen := by
  induction cs generalizing p seen with
  | nil => simp [classProblems]
  | cons c rest ih =>
    have hlisted : (if seen.contains c.name then
        p.add s!"class `{c.name}` is listed more than once" else p).messages = [] ↔
        p.messages = [] ∧ c.name ∉ seen := by
      by_cases hs : c.name ∈ seen
      · simp [hs, Problems.messages_add]
      · simp [hs]
    simp only [classProblems, ih, Problems.messages_addChild_eq_nil_iff,
      ClassEntry.problems_eq_nil_iff, List.forall_mem_cons, List.map_cons, List.nodup_cons,
      List.disjoint_cons_left, List.disjoint_cons_right, hlisted]
    tauto

/-- Validation accepts exactly the valid manifests. -/
theorem check_eq_ok_iff {m : Manifest} : m.check = .ok () ↔ m.Valid := by
  rw [check, Problems.result_eq_ok_iff, problems, classProblems_eq_nil_iff]
  constructor
  · rintro ⟨-, hclasses, hnd, -⟩
    exact ⟨hnd, hclasses⟩
  · rintro ⟨hnd, hclasses⟩
    exact ⟨rfl, hclasses, hnd, List.disjoint_nil_right _⟩

/-- A class is known by its name. -/
theorem Valid.class_eq {m : Manifest} (h : m.Valid) {c e : ClassEntry} (hc : c ∈ m.classes)
    (he : e ∈ m.classes) (hname : c.name = e.name) : c = e :=
  List.inj_on_of_nodup_map h.names hc he hname

end Manifest

end ViewBinding
