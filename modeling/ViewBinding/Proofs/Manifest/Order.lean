import ViewBinding.Proofs.Gathering.Order
import ViewBinding.Proofs.Manifest.DryBuild
import ViewBinding.Proofs.Manifest.Validity

/-!
# Manifests in another order

A valid manifest stays valid whatever the order of its classes and of the members in each class. Its
dry build comes to the same outcomes, and the log is the same but for the order of the rejections.

* `Manifest.Valid.identified`: the declarations of a valid manifest have an identity.
* `Session.settleAll_congr`: injectors that are alike are settled with the same verdicts.
* `Manifest.Reordered.dryBuilds_agree`: the dry builds of both manifests.
-/

namespace ViewBinding

/-- The same class with its members in some other order. -/
structure ClassEntry.Reordered (c c' : ClassEntry) : Prop where
  name : c'.name = c.name
  package : c'.package = c.package
  source : c'.source = c.source
  members : c.members.Perm c'.members

/-- The same manifest with its classes, and the members of each class, in some other order. -/
structure Manifest.Reordered (m m' : Manifest) : Prop where
  sourceVersion : m'.sourceVersion = m.sourceVersion
  classes : ∃ cs, m.classes.Perm cs ∧ List.Forall₂ ClassEntry.Reordered cs m'.classes

/-! ## Classes -/

namespace ClassEntry

variable {c c' : ClassEntry}

theorem Reordered.host (h : c.Reordered c') : c'.host = c.host := by
  unfold ClassEntry.host
  rw [h.name, h.package, h.source]

theorem Reordered.declarations (h : c.Reordered c') : c.declarations.Perm c'.declarations := by
  unfold ClassEntry.declarations
  rw [h.host, h.source]
  exact h.members.map _

theorem Reordered.valid (h : c.Reordered c') (hc : c.Valid) : c'.Valid where
  name := h.name ▸ hc.name
  package := by
    have hpackage := hc.package
    unfold packageProblem? at hpackage ⊢
    rw [h.package, h.name]
    exact hpackage
  members m hm := hc.members m (h.members.mem_iff.mpr hm)
  symbols := by
    rw [h.host]
    exact ((h.members.filter _).map _).nodup hc.symbols

end ClassEntry

theorem MemberEntry.isClassMember_of_target {m : MemberEntry} {kind : AnnotationKind}
    (h : m.kind = kind.target) : m.isClassMember = true := by
  cases kind <;> simp [isClassMember, h, AnnotationKind.target]

/-! ## Settling -/

namespace Session

variable {μ : Type → Type} [Monad μ]

theorem settle_congr (s : Session) (store : Store μ) {i i' : Injector} (h : i.Alike i') :
    s.settle store i = s.settle store i' := by
  -- A skipped class shows its conflicts only; any other one is emitted, and then all of the two
  -- injectors agrees.
  cases hc : i.hasConflicts with
  | true =>
    have hc' : i'.hasConflicts = true := by rw [← Injector.hasConflicts_congr h.conflicts, hc]
    simp only [settle, hc, hc', if_true, h.host, h.conflicts]
  | false => rw [h.same (Injector.hasConflicts_eq_false_iff.mp hc)]

/-- Injectors that are alike are settled with the same verdicts. -/
theorem settleAll_congr (s : Session) (store : Store μ) {is is' : List Injector}
    (h : List.Forall₂ Injector.Alike is is') : s.settleAll store is = s.settleAll store is' := by
  induction h with
  | nil => rfl
  | cons hi _ ih => rw [settleAll, settleAll, s.settle_congr store hi, ih]

end Session

/-! ## Manifests -/

namespace Manifest

variable {m m' : Manifest}

/-- In a valid manifest classes go by their names, and the members of a class by their symbols. -/
theorem Valid.identified (h : m.Valid) : Identified m.declarations where
  host d hd e he host host' hd' he' hname := by
    obtain ⟨c, hc, x, -, rfl⟩ := mem_declarations.mp hd
    obtain ⟨c', hc', y, -, rfl⟩ := mem_declarations.mp he
    cases hd'
    cases he'
    rw [ClassEntry.host_name, ClassEntry.host_name] at hname
    rw [h.class_eq hc hc' hname]
  member d hd e he kind kind' hkind hkind' howner hkey := by
    obtain ⟨c, hc, x, hx, rfl⟩ := mem_declarations.mp hd
    obtain ⟨c', hc', y, hy, rfl⟩ := mem_declarations.mp he
    -- One owner means one class, as names of classes are not repeated, and in a class a symbol
    -- means one member.
    have hhost : c.host = c'.host := Option.some.inj howner
    have hname : c.name = c'.name := by
      rw [← ClassEntry.host_name, hhost, ClassEntry.host_name]
    cases h.class_eq hc hc' hname
    rw [(h.classes c hc).member_eq hx hy (MemberEntry.isClassMember_of_target hkind)
      (MemberEntry.isClassMember_of_target hkind') hkey]

/-- The declarations of a round are those of its manifest. -/
theorem mem_declarations_of_mem_sightings {d : Declaration}
    (h : d ∈ m.round.sightings.map (·.declaration)) : d ∈ m.declarations := by
  obtain ⟨r, hr, rfl⟩ := List.mem_map.mp h
  exact (List.mem_filter.mp (Round.mem_sightings.mp hr)).1

/-- So the sightings of a valid manifest have an identity. -/
theorem identified_sightings (hm : m.Valid) :
    Identified (m.round.sightings.map (·.declaration)) :=
  hm.identified.mono fun _ hd => mem_declarations_of_mem_sightings hd

namespace Reordered

theorem declarations (h : m.Reordered m') : m.declarations.Perm m'.declarations := by
  obtain ⟨cs, hcs, hall⟩ := h.classes
  refine (hcs.flatMap_right _).trans ?_
  -- First the classes are moved, then the members within each of them.
  unfold Manifest.declarations
  clear hcs
  generalize m'.classes = cs' at hall
  induction hall with
  | nil => exact .refl _
  | cons hc _ ih => exact hc.declarations.append ih

/-- A valid manifest stays valid in another order. -/
theorem valid (h : m.Reordered m') (hm : m.Valid) : m'.Valid := by
  obtain ⟨cs, hcs, hall⟩ := h.classes
  have hnames : List.Forall₂ (· = ·) (cs.map (·.name)) (m'.classes.map (·.name)) := by
    rw [List.forall₂_map_left_iff, List.forall₂_map_right_iff]
    exact hall.imp fun c c' hc => hc.name.symm
  rw [List.forall₂_eq_eq_eq] at hnames
  refine ⟨?_, fun c' hc' => ?_⟩
  · rw [← hnames]
    exact (hcs.map _).nodup hm.names
  · obtain ⟨c, hc, hsame⟩ := exists_mem_of_forall₂ hall hc'
    exact hsame.valid (hm.classes c (hcs.mem_iff.mpr hc))

/-- The sightings of the two manifests are the same but for their order. -/
theorem sightings (h : m.Reordered m') : m.round.sightings.Perm m'.round.sightings := by
  rw [Round.sightings_eq, Round.sightings_eq]
  exact ((h.declarations.filter _).map _).append ((h.declarations.filter _).map _)

theorem rejections (h : m.Reordered m') : m.round.rejections.Perm m'.round.rejections :=
  h.sightings.filterMap _

theorem tally (h : m.Reordered m') :
    (m.round.gatherInto .empty).tally = (m'.round.gatherInto .empty).tally := by
  obtain ⟨hs, ha, hr⟩ := Gathering.gather_tally m.round {}
  obtain ⟨hs', ha', hr'⟩ := Gathering.gather_tally m'.round {}
  rw [h.sightings.length_eq, ← hs'] at hs
  rw [h.sightings.countP_eq, ← ha'] at ha
  rw [h.sightings.countP_eq, ← hr'] at hr
  exact Tally.ext hs ha hr

theorem session (h : m.Reordered m') (settings : Settings) :
    m.session settings = m'.session settings := by
  unfold Manifest.session version
  rw [h.sourceVersion]

/-- The verdicts on the classes are the same, in the same order. -/
theorem verdicts (h : m.Reordered m') (hm : m.Valid) (settings : Settings) :
    m.verdicts settings = m'.verdicts settings := by
  have halike := m.reflects_roster.alike m'.reflects_roster h.sightings (identified_sightings hm)
  unfold Manifest.verdicts
  rw [h.session, (m'.session settings).settleAll_congr MemoryStore.store halike]

end Reordered

/-- A valid manifest in another order is valid as well. The dry builds of both come to the same
outcomes. Their logs begin and end with the same notes and have the same errors on classes, in the
same order; the rejections in between are the same but for their order. -/
theorem Reordered.dryBuilds_agree {settings : Settings} (h : m.Reordered m') (hm : m.check = .ok ())
    (hs : settings.check = .ok ()) :
    m'.check = .ok () ∧
    ∃ r r' : Report, checkManifest m settings = .ok r ∧ checkManifest m' settings = .ok r' ∧
      r.rounds = r'.rounds ∧ r.log.Perm r'.log ∧
      ∃ (verdicts : List (HostClass × Verdict)) (first last : Diagnostic),
        r.rounds.head? = some (.ofVerdicts 1 (m.round.gatherInto .empty).tally verdicts) ∧
        let settled := verdicts.flatMap fun v => v.2.diagnostics v.1
        r.log = first :: (m.round.rejections ++ settled) ++ [last] ∧
        r'.log = first :: (m'.round.rejections ++ settled) ++ [last] := by
  have hv := check_eq_ok_iff.mp hm
  -- Only the rejections follow the order of the declarations; classes are settled by their names.
  have hverdicts := h.verdicts hv settings
  refine ⟨check_eq_ok_iff.mpr (h.valid hv), m.report settings, m'.report settings,
    checkManifest_eq hs, checkManifest_eq hs, ?_, ?_, m.verdicts settings, _, _, rfl, rfl, ?_⟩
  · simp only [report, hverdicts, h.tally]
  · simp only [report, hverdicts]
    exact ((h.rejections.append_right _).cons _).append_right _
  · simp only [report, hverdicts]

/-- The manifest read from its end. -/
def reversed (m : Manifest) : Manifest where
  sourceVersion := m.sourceVersion
  classes := m.classes.reverse.map fun c => { c with members := c.members.reverse }

theorem reordered_reversed (m : Manifest) : m.Reordered m.reversed where
  sourceVersion := rfl
  classes := by
    refine ⟨m.classes.reverse, m.classes.reverse_perm.symm, ?_⟩
    rw [reversed, List.forall₂_map_right_iff, List.forall₂_same]
    exact fun c _ => ⟨rfl, rfl, rfl, c.members.reverse_perm.symm⟩

/-- Two rejected members in one class, and a disputed view in the other. -/
def disputedManifest : Manifest where
  classes := [
    { name := "app.Main"
      members := [
        { kind := .field, name := "title", type := "Label", bindView := some 1 },
        { kind := .field, name := "hidden", type := "Label", modifiers := [.privateAccess]
          bindView := some 2 },
        { kind := .method, name := "run", type := "void", bindView := some 3 }] },
    { name := "app.Pair"
      members := [
        { kind := .method, name := "tap", type := "void", onClick := some [4, 5] },
        { kind := .method, name := "tap", type := "void", params := ["android.view.View"]
          onClick := some [5] }] }]

theorem dryBuilds_agree_disputedManifest :
    let m := disputedManifest
    m.Reordered m.reversed ∧ m.check = .ok () ∧ ({} : Settings).check = .ok () ∧
    m.round.rejections ≠ m.reversed.round.rejections ∧
    ∃ r r' : Report, checkManifest m {} = .ok r ∧ checkManifest m.reversed {} = .ok r' ∧
      r.rounds = r'.rounds ∧ r.log.Perm r'.log := by
  have hcheck : disputedManifest.check = .ok () := by decide +kernel
  obtain ⟨-, r, r', hr, hr', hrounds, hlog, -⟩ :=
    (reordered_reversed disputedManifest).dryBuilds_agree hcheck Settings.check_default
  exact ⟨reordered_reversed _, hcheck, Settings.check_default, by decide +kernel, r, r', hr, hr',
    hrounds, hlog⟩

end Manifest

end ViewBinding
