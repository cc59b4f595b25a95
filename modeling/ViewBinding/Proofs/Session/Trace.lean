import Mathlib.Data.List.Nodup
import ViewBinding.Proofs.Gathering.Summary
import ViewBinding.Proofs.Session.Settling
import ViewBinding.Store.Memory

/-!
# What a round leaves in the log

A round writes one note, one error for each rejected declaration and then, class by class, the
errors on what it did not generate. Its outcome counts each report and each class once.

* `Session.Accounts`: the log and the outcome of a round, without the roster in between.
* `Session.returns_accounts`: every round of every session with every store.
-/

namespace ViewBinding

open Text

/-! ## Verdicts on classes with different names -/

namespace Outcome

variable {s : Session} {is : List Injector} {verdicts : List (HostClass × Verdict)}

theorem names_eq (h : List.Forall₂ (Settled s) is verdicts) :
    verdicts.map (·.1.name) = is.map (·.host.name) := by
  induction h with
  | nil => rfl
  | cons hv _ ih => rw [List.map_cons, List.map_cons, ih, hv.1]

/-- A generated source names the class of its verdict. -/
theorem generated_owners (h : List.Forall₂ (Settled s) is verdicts) :
    (verdicts.filterMap (·.2.generated?)).map (·.owner) =
      (verdicts.filter (·.2.generated?.isSome)).map (·.1.name) := by
  induction h with
  | nil => rfl
  | @cons i v _ rest hv _ ih =>
    obtain ⟨hhost, hfits⟩ := hv
    cases hverdict : v.2 with
    | generated source =>
      rw [hverdict] at hfits
      have howner := Injector.owner_of_generate hfits.2
      simp [hverdict, ih, howner, hhost]
    | skipped conflicts => simp [hverdict, ih]
    | failed e => simp [hverdict, ih]

/-- Each class is in one of the three lists. -/
theorem perm_names (h : List.Forall₂ (Settled s) is verdicts) (round : Nat) (tally : Tally) :
    let o := ofVerdicts round tally verdicts
    (o.generated.map (·.owner) ++ o.skipped ++ o.failed).Perm (verdicts.map (·.1.name)) := by
  simp only [ofVerdicts, generated_owners h]
  clear h
  induction verdicts with
  | nil => rfl
  | cons v rest ih =>
    rw [List.map_cons]
    cases hv : v.2 with
    | generated source => simpa [hv] using ih
    | skipped conflicts =>
      refine List.Perm.trans ?_ (ih.cons v.1.name)
      simp only [List.filter_cons, hv, Verdict.generated?_skipped, Verdict.isSkipped_skipped,
        Verdict.isFailed_skipped, Option.isSome_none, Bool.false_eq_true, if_false, if_true,
        List.map_cons, List.append_assoc, List.cons_append]
      exact List.perm_middle
    | failed e =>
      refine List.Perm.trans ?_ (ih.cons v.1.name)
      simp only [List.filter_cons, hv, Verdict.generated?_failed, Verdict.isSkipped_failed,
        Verdict.isFailed_failed, Option.isSome_none, Bool.false_eq_true, if_false, if_true,
        List.map_cons]
      exact List.perm_middle

/-- Where no two verdicts are about one class, a class in a list of the outcome got the verdict of
that list. -/
theorem of_mem_filter_names (hnd : (verdicts.map (·.1.name)).Nodup)
    {p : HostClass × Verdict → Bool} {v : HostClass × Verdict} (hv : v ∈ verdicts)
    (h : v.1.name ∈ (verdicts.filter p).map (·.1.name)) : p v = true := by
  obtain ⟨w, hw, hname⟩ := List.mem_map.mp h
  obtain ⟨hmem, hp⟩ := List.mem_filter.mp hw
  rwa [List.inj_on_of_nodup_map hnd hmem hv hname] at hp

theorem skipped_failed_eq_nil_iff {round : Nat} {tally : Tally} :
    (ofVerdicts round tally verdicts).skipped = [] ∧ (ofVerdicts round tally verdicts).failed = [] ↔
      ∀ v ∈ verdicts, v.2.generated?.isSome = true := by
  simp only [ofVerdicts, List.map_eq_nil_iff, List.filter_eq_nil_iff, ← forall_and]
  refine forall_congr' fun v => forall_congr' fun _ => ?_
  cases v.2 <;> simp

end Outcome

/-! ## Levels -/

theorem Verdict.level_of_mem_diagnostics {v : Verdict} {host : HostClass} {x : Diagnostic}
    (h : x ∈ v.diagnostics host) : x.level = .error := by
  obtain ⟨message, -, rfl⟩ := List.mem_map.mp h
  rfl

/-- A verdict that fits its injector reports nothing exactly if it generated a source. -/
theorem Verdict.Fits.diagnostics_eq_nil_iff {settings : Settings} {version : SourceVersion}
    {i : Injector} {v : Verdict} (h : v.Fits settings version i) {host : HostClass} :
    v.diagnostics host = [] ↔ v.generated?.isSome = true := by
  rw [diagnostics, List.map_eq_nil_iff]
  cases v with
  | generated source => simp [messages]
  | skipped conflicts =>
    obtain ⟨hne, rfl⟩ := h
    simp [messages, hne]
  | failed e => simp [messages]

namespace Round

variable {round : Round}

theorem level_of_mem_rejections {x : Diagnostic} (h : x ∈ round.rejections) : x.level = .error := by
  obtain ⟨r, -, hr⟩ := List.mem_filterMap.mp h
  exact (Sighting.level_of_rejection? hr).1

theorem rejections_eq_nil_iff :
    round.rejections = [] ↔ round.sightings.countP (!·.isAccepted) = 0 := by
  simp [rejections, List.filterMap_eq_nil_iff, List.countP_eq_zero,
    Sighting.rejection?_eq_none_iff]

/-- One error for each rejected sighting, in order, on the symbol of its declaration. -/
theorem rejections_subjects :
    round.rejections.map (fun x => (x.level, x.subject)) =
      (round.sightings.filter (!·.isAccepted)).map
        fun r => (Level.error, some r.declaration.symbolKey) := by
  rw [rejections]
  induction round.sightings with
  | nil => rfl
  | cons r rest ih =>
    cases hr : r.rejection? with
    | none => simp [hr, Sighting.rejection?_eq_none_iff.mp hr, ih]
    | some x =>
      have hacc : r.isAccepted = false := Bool.eq_false_iff.mpr fun hacc => by
        rw [Sighting.rejection?_eq_none_iff.mpr hacc] at hr
        cases hr
      obtain ⟨hlevel, hsubject⟩ := Sighting.level_of_rejection? hr
      simp [hr, hacc, ih, hlevel, hsubject]

end Round

/-- The injectors of a roster belong to the classes under whose names they stand. -/
theorem Roster.Reflects.names_eq {roster : Roster} {history : List Sighting}
    (h : roster.Reflects history) : roster.values.map (·.host.name) = roster.keys := by
  rw [SortedMap.values, SortedMap.keys, List.map_map]
  refine List.map_congr_left fun e he => ?_
  exact (h.host e.1 e.2 (SortedMap.mem_entries_iff.mp he)).1

/-! ## The account of a round -/

namespace Session

/-- The errors on a class whose views are disputed: one for each conflict, those of fields first and
then by ascending view. -/
def ConflictErrors (round : Round) (owner : String) (errors : List Diagnostic) : Prop :=
  ∃ (host : HostClass) (conflicts : List Conflict), host.name = owner ∧ conflicts ≠ [] ∧
    conflicts.Pairwise Conflict.Before ∧
    (∀ (kind : AnnotationKind) id, (∃ c ∈ conflicts, c.table = kind.table ∧ c.id = id) ↔
      Disagree (claimants [round] kind owner id)) ∧
    errors = conflicts.map fun c => Diagnostic.onClass .error c.message host

/-- The one error on a class whose injector was not emitted. -/
def EmissionErrors (owner : String) (errors : List Diagnostic) : Prop :=
  ∃ (host : HostClass) (e : EmissionError), host.name = owner ∧
    errors = [Diagnostic.onClass .error e.message host]

/-- What a round adds to the log, and how its outcome counts reports and classes. -/
structure Accounts (round : Round) (number : Nat) (added : List Diagnostic) (o : Outcome) :
    Prop where
  /-- A note, the rejections, and the errors on each class with an accepted declaration. Each of
  these classes is in one list of the outcome, and that list says which errors there are. -/
  trace : ∃ classes : List (String × List Diagnostic),
    added = roundNote number round.final :: (round.rejections ++ classes.flatMap (·.2)) ∧
    (classes.map (·.1)).Pairwise ByteLess ∧
    (∀ owner, owner ∈ classes.map (·.1) ↔ ∃ kind, ∃ d ∈ round.reported kind,
      (∃ place, d.placeAs kind = .ok place) ∧ ∃ host, d.owner = some host ∧ host.name = owner) ∧
    (o.generated.map (·.owner) ++ o.skipped ++ o.failed).Perm (classes.map (·.1)) ∧
    ∀ c ∈ classes, (c.1 ∈ o.skipped → ConflictErrors round c.1 c.2) ∧
      (c.1 ∈ o.failed → EmissionErrors c.1 c.2) ∧ (c.1 ∈ o.generated.map (·.owner) → c.2 = [])
  /-- The rejections are one error for each declaration rejected for an annotation, in order. -/
  rejections : round.rejections.map (fun x => (x.level, x.subject)) =
    (round.sightings.filter (!·.isAccepted)).map fun r => (.error, some r.declaration.symbolKey)
  scanned : o.tally.scanned = round.sightings.length
  accepted : o.tally.accepted = round.sightings.countP (·.isAccepted)
  rejected : o.tally.rejected = round.sightings.countP (!·.isAccepted)
  balanced : o.tally.scanned = o.tally.accepted + o.tally.rejected
  generated_ascending : (o.generated.map (·.owner)).Pairwise ByteLess
  skipped_ascending : o.skipped.Pairwise ByteLess
  failed_ascending : o.failed.Pairwise ByteLess
  /-- The outcome is clean exactly if no error was added. -/
  clean : o.isClean = true ↔ ∀ x ∈ added, x.level ≠ .error

section

variable {s : Session} {round : Round} {verdicts : List (HostClass × Verdict)}

/-- The verdicts on the injectors of a round, with the errors they leave. -/
def classErrors (verdicts : List (HostClass × Verdict)) : List (String × List Diagnostic) :=
  verdicts.map fun v => (v.1.name, v.2.diagnostics v.1)

theorem classErrors_names : (classErrors verdicts).map (·.1) = verdicts.map (·.1.name) := by
  rw [classErrors, List.map_map]
  rfl

theorem classErrors_errors :
    (classErrors verdicts).flatMap (·.2) = verdicts.flatMap fun v => v.2.diagnostics v.1 := by
  rw [classErrors, List.flatMap_map]

/-- The classes settled in a round are those of its roster, in order. -/
theorem names_of_round
    (hv : List.Forall₂ (Settled s) (round.gatherInto .empty).roster.values verdicts) :
    verdicts.map (·.1.name) = (Roster.gatherAll [round]).keys :=
  (Outcome.names_eq hv).trans (Roster.reflects_gatherAll [round]).names_eq

theorem names_ascending
    (hv : List.Forall₂ (Settled s) (round.gatherInto .empty).roster.values verdicts) :
    (verdicts.map (·.1.name)).Pairwise ByteLess := by
  rw [names_of_round hv]
  exact (SortedMap.keys_ascending _).imp byteLess_of_compare

theorem names_nodup
    (hv : List.Forall₂ (Settled s) (round.gatherInto .empty).roster.values verdicts) :
    (verdicts.map (·.1.name)).Nodup := by
  rw [names_of_round hv]
  exact SortedMap.keys_nodup _

theorem mem_names_iff
    (hv : List.Forall₂ (Settled s) (round.gatherInto .empty).roster.values verdicts)
    {owner : String} :
    owner ∈ verdicts.map (·.1.name) ↔ ∃ kind, ∃ d ∈ round.reported kind,
      (∃ place, d.placeAs kind = .ok place) ∧ ∃ host, d.owner = some host ∧ host.name = owner := by
  rw [names_of_round hv, SortedMap.mem_keys_iff_isSome, Roster.isSome_gatherAll_iff]
  simp

/-- A skipped class leaves its conflicts. -/
theorem conflictErrors_of_skipped
    (hv : List.Forall₂ (Settled s) (round.gatherInto .empty).roster.values verdicts)
    {v : HostClass × Verdict} (hmem : v ∈ verdicts) (hskip : v.2.isSkipped = true) :
    ConflictErrors round v.1.name (v.2.diagnostics v.1) := by
  obtain ⟨i, hi, hhost, hfits⟩ := exists_mem_of_forall₂ hv hmem
  obtain ⟨owner, hget⟩ := SortedMap.mem_values_iff.mp hi
  have hname : v.1.name = owner := by
    rw [hhost]
    exact ((Roster.reflects_gatherAll [round]).host owner i hget).1
  cases hverdict : v.2 with
  | generated source => rw [hverdict] at hskip; cases hskip
  | failed e => rw [hverdict] at hskip; cases hskip
  | skipped conflicts =>
    rw [hverdict] at hfits
    obtain ⟨hne, rfl⟩ := hfits
    refine ⟨v.1, i.conflicts, rfl, hne, Injector.conflicts_ordered, fun kind id => ?_, ?_⟩
    · rw [hname]
      have hget' : (Roster.gatherAll [round]).get? owner = some i := hget
      exact (Roster.records_gatherAll hget').exists_conflict_iff kind id
    · simp [Verdict.diagnostics, Verdict.messages]

theorem emissionErrors_of_failed {v : HostClass × Verdict} (hfail : v.2.isFailed = true) :
    EmissionErrors v.1.name (v.2.diagnostics v.1) := by
  cases hverdict : v.2 with
  | generated source => rw [hverdict] at hfail; cases hfail
  | skipped conflicts => rw [hverdict] at hfail; cases hfail
  | failed e => exact ⟨v.1, e, rfl, rfl⟩

/-- A round adds no errors exactly if it rejects nothing and generates every class. -/
theorem no_errors_iff {number : Nat} {is : List Injector}
    (hv : List.Forall₂ (Settled s) is verdicts) :
    (∀ x ∈ roundNote number round.final ::
        (round.rejections ++ verdicts.flatMap fun v => v.2.diagnostics v.1), x.level ≠ .error) ↔
      round.rejections = [] ∧ ∀ v ∈ verdicts, v.2.generated?.isSome = true := by
  -- The note is no error, each rejection is one, and so is all that a verdict reports.
  have hdiag : ∀ v ∈ verdicts, v.2.diagnostics v.1 = [] ↔ v.2.generated?.isSome = true := by
    intro v hmem
    obtain ⟨i, -, -, hfits⟩ := exists_mem_of_forall₂ hv hmem
    exact hfits.diagnostics_eq_nil_iff
  constructor
  · intro hno
    refine ⟨List.eq_nil_iff_forall_not_mem.mpr fun x hx => ?_, fun v hmem => ?_⟩
    · exact hno x (List.mem_cons_of_mem _ (List.mem_append_left _ hx))
        (Round.level_of_mem_rejections hx)
    · rw [← hdiag v hmem, List.eq_nil_iff_forall_not_mem]
      intro x hx
      exact hno x (List.mem_cons_of_mem _ (List.mem_append_right _
        (List.mem_flatMap.mpr ⟨v, hmem, hx⟩))) (Verdict.level_of_mem_diagnostics hx)
  · rintro ⟨hrej, hall⟩ x hx
    rcases List.mem_cons.mp hx with rfl | hx
    · exact fun h => by cases h
    · rw [hrej, List.nil_append] at hx
      obtain ⟨v, hmem, hxv⟩ := List.mem_flatMap.mp hx
      rw [(hdiag v hmem).mpr (hall v hmem)] at hxv
      cases hxv

/-- An outcome is clean exactly if nothing was rejected and every class was generated. -/
theorem isClean_iff :
    (Outcome.ofVerdicts (s.rounds + 1) (round.gatherInto .empty).tally verdicts).isClean = true ↔
      round.rejections = [] ∧ ∀ v ∈ verdicts, v.2.generated?.isSome = true := by
  have htally := (Gathering.gather_tally round {}).2.2
  rw [Outcome.isClean, Bool.and_eq_true, Bool.and_eq_true, List.isEmpty_iff, List.isEmpty_iff,
    and_assoc, Outcome.skipped_failed_eq_nil_iff, Round.rejections_eq_nil_iff]
  refine and_congr_left fun _ => ?_
  rw [beq_iff_eq, ← Nat.zero_add (round.sightings.countP _)]
  exact Eq.congr_left htally

/-- Fitting verdicts on the injectors of a round account for it. -/
theorem accounts_of_settled
    (hv : List.Forall₂ (Settled s) (round.gatherInto .empty).roster.values verdicts) :
    Accounts round (s.rounds + 1)
      (roundNote (s.rounds + 1) round.final ::
        (round.rejections ++ verdicts.flatMap fun v => v.2.diagnostics v.1))
      (.ofVerdicts (s.rounds + 1) (round.gatherInto .empty).tally verdicts) where
  trace := by
    refine ⟨classErrors verdicts, by rw [classErrors_errors], ?_, fun owner => ?_, ?_,
      fun c hc => ?_⟩
    · rw [classErrors_names]; exact names_ascending hv
    · rw [classErrors_names]; exact mem_names_iff hv
    · rw [classErrors_names]; exact Outcome.perm_names hv _ _
    · obtain ⟨v, hmem, rfl⟩ := List.mem_map.mp hc
      have hnd := names_nodup hv
      refine ⟨fun h => ?_, fun h => ?_, fun h => ?_⟩
      · exact conflictErrors_of_skipped hv hmem (Outcome.of_mem_filter_names hnd hmem h)
      · exact emissionErrors_of_failed (Outcome.of_mem_filter_names hnd hmem h)
      · obtain ⟨i, -, -, hfits⟩ := exists_mem_of_forall₂ hv hmem
        simp only [Outcome.ofVerdicts, Outcome.generated_owners hv] at h
        exact hfits.diagnostics_eq_nil_iff.mpr
          (Outcome.of_mem_filter_names (p := fun v => v.2.generated?.isSome) hnd hmem h)
  rejections := Round.rejections_subjects
  scanned := (Gathering.gather_tally round {}).1.trans (Nat.zero_add _)
  accepted := (Gathering.gather_tally round {}).2.1.trans (Nat.zero_add _)
  rejected := (Gathering.gather_tally round {}).2.2.trans (Nat.zero_add _)
  balanced := by
    obtain ⟨hs, ha, hr⟩ := Gathering.gather_tally round {}
    have hlen := round.length_sightings
    simp only [Outcome.ofVerdicts, Round.gatherInto] at *
    omega
  generated_ascending := by
    simp only [Outcome.ofVerdicts, Outcome.generated_owners hv]
    exact (names_ascending hv).sublist (List.filter_sublist.map _)
  skipped_ascending := (names_ascending hv).sublist (List.filter_sublist.map _)
  failed_ascending := (names_ascending hv).sublist (List.filter_sublist.map _)
  clean := isClean_iff.trans (no_errors_iff hv).symm

end

/-- Whatever the session has run before, whatever the round reports and whatever the store does with
the sources, the log grows by what accounts for the round. -/
theorem returns_accounts {m : Type → Type} [Monad m] [LawfulMonad m] (s : Session)
    (store : Store m) (round : Round) :
    Returns (fun r => ∃ added, r.1.log = s.log ++ added ∧
      Accounts round (s.rounds + 1) added r.2) (s.runRound store round) := by
  refine (s.returns_runRound store round).mono ?_
  rintro _ ⟨verdicts, hv, rfl⟩
  refine ⟨_, ?_, accounts_of_settled hv⟩
  simp [afterRound, Round.gatherInto, Gathering.gather_log]

/-- A round with a declaration to reject, a class to generate, one to skip and one to fail. -/
def mixedRound : Round :=
  .ofDeclarations [
    { kind := .field, name := "title", type := "Label", owner := some (.ofName "Main")
      annotations := [.bindView 10] },
    { kind := .field, name := "right", type := "Label", owner := some (.ofName "Pair")
      annotations := [.bindView 7] },
    { kind := .field, name := "left", type := "Label", owner := some (.ofName "Pair")
      annotations := [.bindView 7] },
    { kind := .localVariable, name := "tmp", type := "Label", owner := some (.ofName "Main")
      annotations := [.bindView 3] },
    { kind := .method, name := "onTap", type := "void", owner := some (.ofName "Gone")
      annotations := [.onClick [1, 2]] }]

theorem returns_accounts_mixedRound :
    let s : Session := { settings := {}, version := {} }
    let run := s.runRound MemoryStore.store mixedRound
    let o := (run { refused := ["Gone$$ViewInjector"] }).1.2
    LawfulMonad (StateM MemoryStore) ∧
    Returns (fun r => ∃ added, r.1.log = [] ++ added ∧ Accounts mixedRound 1 added r.2) run ∧
    o.tally = { scanned := 5, accepted := 4, rejected := 1 } ∧
    o.generated.map (·.owner) = ["Main"] ∧ o.skipped = ["Pair"] ∧ o.failed = ["Gone"] :=
  ⟨inferInstance,
    returns_accounts { settings := {}, version := {} } MemoryStore.store mixedRound,
    by decide +kernel⟩

end Session

end ViewBinding
