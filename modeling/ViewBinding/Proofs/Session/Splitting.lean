import ViewBinding.Proofs.Gathering.Splitting
import ViewBinding.Proofs.Session.Isolation

/-!
# Splitting a round

Two rounds, run one after the other, do what one round does that reports the declarations of both,
as long as no class has members in both and no injector of the first has the name of one of the
second. With a store in memory the files are the same. The single round goes through all classes in
the order of their names, so its lists are the lists of the two rounds, merged in that order.

* `mergeByName`: two ascending lists merged into one.
* `Session.filter_settleAll_of_apart`: injectors can be settled without others that do not share
  their names.
* `Session.perm_verdictsOf_append`: the verdicts of one round are those of the two.
* `Session.runRound_append`: one round does what the two do.
-/

namespace ViewBinding

open Text

/-! ## Merging -/

section

variable {α : Type} {name : α → String} {xs ys zs : List α}

/-- The name of the second does not stand before that of the first. -/
def inOrder (name : α → String) (x y : α) : Bool :=
  decide (¬ ByteLess (name y) (name x))

/-- Two lists merged by ascending names. -/
def mergeByName (name : α → String) (xs ys : List α) : List α :=
  xs.merge ys (inOrder name)

theorem inOrder_iff {x y : α} : inOrder name x y = true ↔ name x ≤ name y := by
  rw [inOrder, decide_eq_true_eq, byteLess_iff, String.not_lt]

theorem inOrder_of_ascending (h : (xs.map name).Pairwise ByteLess) :
    xs.Pairwise fun x y => inOrder name x y = true := by
  refine (List.pairwise_map.mp h).imp fun hlt => ?_
  exact decide_eq_true fun hgt => List.lt_asymm hlt hgt

/-- A list that ascends strictly and holds the members of two such lists is the merged list. -/
theorem eq_mergeByName (hxs : (xs.map name).Pairwise ByteLess)
    (hys : (ys.map name).Pairwise ByteLess) (hzs : (zs.map name).Pairwise ByteLess)
    (hperm : zs.Perm (xs ++ ys)) : zs = mergeByName name xs ys := by
  have hmerge : (mergeByName name xs ys).Perm (xs ++ ys) := List.merge_perm_append _
  -- Both are sorted permutations of the two lists, and names tell their members apart.
  have hmerged : (mergeByName name xs ys).Pairwise fun x y => inOrder name x y = true := by
    apply List.pairwise_merge
    · intro x y z hxy hyz
      exact inOrder_iff.mpr (String.le_trans (inOrder_iff.mp hxy) (inOrder_iff.mp hyz))
    · intro x y
      rw [Bool.or_eq_true, inOrder_iff, inOrder_iff]
      exact String.le_total _ _
    · exact inOrder_of_ascending hxs
    · exact inOrder_of_ascending hys
  refine (hperm.trans hmerge.symm).eq_of_pairwise ?_ (inOrder_of_ascending hzs) hmerged
  intro x y hx hy hxy hyx
  have hnd : (zs.map name).Nodup := by
    refine hzs.imp ?_
    rintro x _ hlt rfl
    exact List.lt_irrefl _ hlt
  have hname : name x = name y := String.le_antisymm (inOrder_iff.mp hxy) (inOrder_iff.mp hyx)
  exact List.inj_on_of_nodup_map hnd hx (hperm.mem_iff.mpr (hmerge.mem_iff.mp hy)) hname

end

/-- No injector that the first list calls for has the name of one that the second calls for. -/
def InjectorNamesApart (suffix : String) (a b : List Declaration) : Prop :=
  ∀ i ∈ ((Round.ofDeclarations a).gatherInto .empty).roster.values,
    ∀ j ∈ ((Round.ofDeclarations b).gatherInto .empty).roster.values,
      i.host.injectorQualifiedName suffix ≠ j.host.injectorQualifiedName suffix

instance (suffix : String) (a b : List Declaration) : Decidable (InjectorNamesApart suffix a b) :=
  by unfold InjectorNamesApart; infer_instance

/-- One outcome is that of two others together: their lists merged by ascending classes, and their
reports counted together. -/
structure Outcome.Joins (whole first second : Outcome) : Prop where
  tally : whole.tally = first.tally + second.tally
  generated : whole.generated = mergeByName (·.owner) first.generated second.generated
  skipped : whole.skipped = mergeByName id first.skipped second.skipped
  failed : whole.failed = mergeByName id first.failed second.failed

namespace Session

variable {s s' : Session} {a b : List Declaration}

/-! ## Verdicts -/

theorem settleAll_cons_inMemory (s : Session) (i : Injector) (rest : List Injector)
    (st : MemoryStore) :
    let first := s.settle MemoryStore.store i st
    (s.settleAll MemoryStore.store (i :: rest) st).1 =
      first.1 :: (s.settleAll MemoryStore.store rest first.2).1 := rfl

/-- The verdicts on chosen injectors are those that they would get without the others, if none of
the others has one of their names. -/
theorem filter_settleAll_of_apart (hsettings : s.settings = s'.settings)
    (hversion : s.version = s'.version) {p : HostClass → Bool} {is : List Injector}
    {st st' : MemoryStore}
    (hapart : ∀ i ∈ is, p i.host = true → ∀ j ∈ is, p j.host = false →
      i.host.injectorQualifiedName s.settings.classSuffix ≠
        j.host.injectorQualifiedName s.settings.classSuffix)
    (hagree : ∀ i ∈ is, p i.host = true →
      st.AgreeOn st' (i.host.injectorQualifiedName s.settings.classSuffix)) :
    (s.settleAll MemoryStore.store is st).1.filter (p ·.1) =
      (s'.settleAll MemoryStore.store (is.filter (p ·.host)) st').1 := by
  induction is generalizing st st' with
  | nil => rfl
  | cons i rest ih =>
    obtain ⟨hhead, hrest⟩ := List.forall_mem_cons.mp hagree
    have hlater : ∀ {t t' : MemoryStore},
        (∀ j ∈ rest, p j.host = true →
          t.AgreeOn t' (j.host.injectorQualifiedName s.settings.classSuffix)) →
        (s.settleAll MemoryStore.store rest t).1.filter (p ·.1) =
          (s'.settleAll MemoryStore.store (rest.filter (p ·.host)) t').1 :=
      ih fun j hj hpj k hk hpk =>
        hapart j (List.mem_cons_of_mem _ hj) hpj k (List.mem_cons_of_mem _ hk) hpk
    have hhost : (s.settle MemoryStore.store i st).1.1 = i.host :=
      ((s.returns_settle MemoryStore.store i).of_state st).1
    have hgrown : st.Grown (generatedFiles [(s.settle MemoryStore.store i st).1])
      (s.settle MemoryStore.store i st).2 := s.grown_settleAll [i] st
    rw [settleAll_cons_inMemory, List.filter_cons, List.filter_cons, hhost]
    -- A chosen injector is settled on both sides; any other one takes a name that no chosen one
    -- has.
    cases hp : p i.host with
    | true =>
      have hverdict : (s.settle MemoryStore.store i st).1 = (s'.settle MemoryStore.store i st').1 :=
        settle_congr_agreeOn hsettings hversion (hhead hp)
      have hgrown' : st'.Grown (generatedFiles [(s'.settle MemoryStore.store i st').1])
        (s'.settle MemoryStore.store i st').2 := s'.grown_settleAll [i] st'
      rw [← hverdict] at hgrown'
      rw [if_pos rfl, if_pos rfl, settleAll_cons_inMemory, ← hverdict]
      exact congrArg _ (hlater fun j hj hpj => (hrest j hj hpj).grown hgrown hgrown')
    | false =>
      rw [if_neg Bool.false_ne_true, if_neg Bool.false_ne_true]
      refine hlater fun j hj hpj =>
        (hgrown.agreeOn fun file hfile => ?_).symm.trans (hrest j hj hpj)
      have hmem : file ∈ generatedFiles (s.settleAll MemoryStore.store [i] st).1 := hfile
      obtain ⟨k, hk, hname⟩ := exists_injector_of_mem_generatedFiles hmem
      rw [hname, List.mem_singleton.mp hk]
      exact (hapart j (List.mem_cons_of_mem _ hj) hpj i List.mem_cons_self hp).symm

/-- The verdicts of the round with both lists are those of the two rounds, in another order. -/
theorem perm_verdictsOf_append (s : Session) (howners : OwnersApart a b)
    (hnames : InjectorNamesApart s.settings.classSuffix a b) (st : MemoryStore) :
    let first := s.runRound MemoryStore.store (.ofDeclarations a) st
    (s.verdictsOf (.ofDeclarations (a ++ b)) st).Perm
      (s.verdictsOf (.ofDeclarations a) st ++
        first.1.1.verdictsOf (.ofDeclarations b) first.2) := by
  intro first
  let is := ((Round.ofDeclarations (a ++ b)).gatherInto .empty).roster.values
  let p : HostClass → Bool := fun host => decide (host.name ∈ ownerNames a)
  have hleft : is.filter (p ·.host) = ((Round.ofDeclarations a).gatherInto .empty).roster.values :=
    Round.filter_values_left howners
  have hright : is.filter (fun i => !p i.host) =
      ((Round.ofDeclarations b).gatherInto .empty).roster.values :=
    Round.filter_values_right howners
  have hapart : ∀ i ∈ is, p i.host = true → ∀ j ∈ is, p j.host = false →
      i.host.injectorQualifiedName s.settings.classSuffix ≠
        j.host.injectorQualifiedName s.settings.classSuffix := by
    intro i hi hpi j hj hpj
    apply hnames
    · rw [← hleft]
      exact List.mem_filter.mpr ⟨hi, hpi⟩
    · rw [← hright]
      exact List.mem_filter.mpr ⟨hj, by rw [hpj]; rfl⟩
  have hfirst : (s.verdictsOf (.ofDeclarations (a ++ b)) st).filter (p ·.1) =
      s.verdictsOf (.ofDeclarations a) st := by
    rw [verdictsOf, verdictsOf, ← hleft]
    exact filter_settleAll_of_apart rfl rfl hapart fun _ _ _ => ⟨Iff.rfl, Iff.rfl⟩
  have hsecond : (s.verdictsOf (.ofDeclarations (a ++ b)) st).filter (fun v => !p v.1) =
      first.1.1.verdictsOf (.ofDeclarations b) first.2 := by
    rw [verdictsOf, verdictsOf, ← hright]
    have hsettings : s.settings = first.1.1.settings := rfl
    have hversion : s.version = first.1.1.version := rfl
    refine filter_settleAll_of_apart (p := fun host => !p host) hsettings hversion ?_
      fun j hj hpj => ?_
    · intro j hj hpj i hi hpi
      exact (hapart i hi (by simpa using hpi) j hj (by simpa using hpj)).symm
    · have hgrown := s.grown_settleAll ((Round.ofDeclarations a).gatherInto .empty).roster.values st
      refine hgrown.agreeOn fun file hfile => ?_
      obtain ⟨i, hi, hname⟩ := exists_injector_of_mem_generatedFiles hfile
      rw [← hleft] at hi
      obtain ⟨hi, hpi⟩ := List.mem_filter.mp hi
      rw [hname]
      exact hapart i hi hpi j hj (by simpa using hpj)
  rw [← hfirst, ← hsecond]
  exact (List.filter_append_perm _ _).symm

/-! ## Stores, outcomes and logs -/

/-- The errors that a round leaves behind those that were in the log. -/
theorem errors_runRound (s : Session) (round : Round) (st : MemoryStore) :
    Diagnostic.atLevel (s.runRound MemoryStore.store round st).1.1.log .error =
      Diagnostic.atLevel s.log .error ++
        (round.rejections ++ (s.verdictsOf round st).flatMap fun v => v.2.diagnostics v.1) := by
  have hrejections : round.rejections.filter (·.level = .error) = round.rejections :=
    List.filter_eq_self.mpr fun x hx => decide_eq_true (Round.level_of_mem_rejections hx)
  have hdiagnostics : ((s.verdictsOf round st).flatMap fun v => v.2.diagnostics v.1).filter
      (·.level = .error) = (s.verdictsOf round st).flatMap fun v => v.2.diagnostics v.1 := by
    refine List.filter_eq_self.mpr fun x hx => decide_eq_true ?_
    obtain ⟨v, -, hx⟩ := List.mem_flatMap.mp hx
    exact Verdict.level_of_mem_diagnostics hx
  have hgather : (round.gatherInto .empty).log = round.rejections :=
    (Gathering.gather_log round {}).trans (List.nil_append _)
  rw [runRound_inMemory, afterRound, hgather]
  simp [Diagnostic.atLevel, List.filter_append, hrejections, hdiagnostics, roundNote]

/-- The lists of an outcome ascend, so it is enough that they hold what those of the two hold. -/
theorem joins_of_accounts {round round₁ round₂ : Round} {n n₁ n₂ : Nat}
    {added added₁ added₂ : List Diagnostic} {whole first second : Outcome}
    (hwhole : Accounts round n added whole) (hfirst : Accounts round₁ n₁ added₁ first)
    (hsecond : Accounts round₂ n₂ added₂ second) (htally : whole.tally = first.tally + second.tally)
    (hgenerated : whole.generated.Perm (first.generated ++ second.generated))
    (hskipped : whole.skipped.Perm (first.skipped ++ second.skipped))
    (hfailed : whole.failed.Perm (first.failed ++ second.failed)) : whole.Joins first second where
  tally := htally
  generated := eq_mergeByName hfirst.generated_ascending hsecond.generated_ascending
    hwhole.generated_ascending hgenerated
  skipped := by
    apply eq_mergeByName _ _ _ hskipped <;> rw [List.map_id]
    exacts [hfirst.skipped_ascending, hsecond.skipped_ascending, hwhole.skipped_ascending]
  failed := by
    apply eq_mergeByName _ _ _ hfailed <;> rw [List.map_id]
    exacts [hfirst.failed_ascending, hsecond.failed_ascending, hwhole.failed_ascending]

/-- One round that reports two lists of declarations does what two rounds with one list each do, if
no class has members in both lists and no injector of the first has the name of one of the second.
The store is the same, whatever it held before and whatever it refuses, and so are the outcomes
together and the errors in the log. -/
theorem runRound_append (s : Session) (st : MemoryStore) (howners : OwnersApart a b)
    (hnames : InjectorNamesApart s.settings.classSuffix a b) :
    let first := s.runRound MemoryStore.store (.ofDeclarations a) st
    let second := first.1.1.runRound MemoryStore.store (.ofDeclarations b) first.2
    let whole := s.runRound MemoryStore.store (.ofDeclarations (a ++ b)) st
    second.2 = whole.2 ∧ whole.1.2.Joins first.1.2 second.1.2 ∧
      (Diagnostic.atLevel second.1.1.log .error).Perm
        (Diagnostic.atLevel whole.1.1.log .error) := by
  intro first second whole
  have hperm := s.perm_verdictsOf_append howners hnames st
  have hfirst := accounts_of_settled (s.settled_verdictsOf (.ofDeclarations a) st)
  have hsecond := accounts_of_settled (first.1.1.settled_verdictsOf (.ofDeclarations b) first.2)
  have hwhole := accounts_of_settled (s.settled_verdictsOf (.ofDeclarations (a ++ b)) st)
  refine ⟨?_, joins_of_accounts hwhole hfirst hsecond (Round.tally_append a b) ?_ ?_ ?_, ?_⟩
  · have hgrown : st.Grown _ second.2 :=
      (s.grown_settleAll _ st).trans (first.1.1.grown_settleAll _ first.2)
    refine hgrown.eq_of_perm (s.grown_settleAll _ st) ?_
    rw [generatedFiles, generatedFiles, generatedFiles, ← List.filterMap_append]
    exact (hperm.filterMap _).symm
  · have hgenerated := hperm.filterMap (·.2.generated?)
    rw [List.filterMap_append] at hgenerated
    exact hgenerated
  · have hskipped := (hperm.filter (·.2.isSkipped)).map (·.1.name)
    rw [List.filter_append, List.map_append] at hskipped
    exact hskipped
  · have hfailed := (hperm.filter (·.2.isFailed)).map (·.1.name)
    rw [List.filter_append, List.map_append] at hfailed
    exact hfailed
  · have hrejections := Round.rejections_append_perm a b
    have hdiagnostics := hperm.flatMap_right fun v => v.2.diagnostics v.1
    rw [List.flatMap_append] at hdiagnostics
    rw [errors_runRound, errors_runRound, errors_runRound, List.append_assoc]
    refine (List.Perm.trans ?_ (hrejections.append hdiagnostics).symm).append_left _
    rw [List.append_assoc, List.append_assoc]
    -- The two rounds report rejections and verdicts by turns, the one round all rejections first.
    exact (List.perm_append_comm_assoc ..).append_left _

/-- Declarations for a class to generate and one to skip. -/
def earlyDeclarations : List Declaration := [
  { kind := .field, name := "title", type := "Label", owner := some (.ofName "Zone")
    annotations := [.bindView 10] },
  { kind := .field, name := "right", type := "Label", owner := some (.ofName "Pair")
    annotations := [.bindView 7] },
  { kind := .field, name := "left", type := "Label", owner := some (.ofName "Pair")
    annotations := [.bindView 7] }]

/-- Declarations for a class to generate, one to fail, and one that has nothing to bind. -/
def lateDeclarations : List Declaration := [
  { kind := .method, name := "onTap", type := "void", owner := some (.ofName "Gone")
    annotations := [.onClick [1, 2]] },
  { kind := .localVariable, name := "tmp", type := "Label", owner := some (.ofName "Main")
    annotations := [.bindView 3] },
  { kind := .field, name := "icon", type := "Image", owner := some (.ofName "Area")
    annotations := [.bindView 4] }]

theorem runRound_append_lateDeclarations :
    let s : Session := { settings := {}, version := {}, rounds := 2 }
    let st : MemoryStore := { refused := ["Gone$$ViewInjector"] }
    let first := s.runRound MemoryStore.store (.ofDeclarations earlyDeclarations) st
    let second := first.1.1.runRound MemoryStore.store (.ofDeclarations lateDeclarations) first.2
    let whole := s.runRound MemoryStore.store
      (.ofDeclarations (earlyDeclarations ++ lateDeclarations)) st
    OwnersApart earlyDeclarations lateDeclarations ∧
    InjectorNamesApart s.settings.classSuffix earlyDeclarations lateDeclarations ∧
    second.2 = whole.2 ∧ whole.1.2.Joins first.1.2 second.1.2 ∧
    first.1.2.generated.map (·.owner) = ["Zone"] ∧
    second.1.2.generated.map (·.owner) = ["Area"] ∧
    whole.1.2.generated.map (·.owner) = ["Area", "Zone"] ∧
    whole.1.2.skipped = ["Pair"] ∧ whole.1.2.failed = ["Gone"] :=
  have howners : OwnersApart earlyDeclarations lateDeclarations := by decide +kernel
  have hnames : InjectorNamesApart ({} : Settings).classSuffix earlyDeclarations
    lateDeclarations := by decide +kernel
  have happend := runRound_append { settings := {}, version := {}, rounds := 2 }
    { refused := ["Gone$$ViewInjector"] } howners hnames
  ⟨howners, hnames, happend.1, happend.2.1, by decide +kernel⟩

end Session

end ViewBinding
