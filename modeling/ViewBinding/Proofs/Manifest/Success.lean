import ViewBinding.Proofs.Manifest.Containment
import ViewBinding.Proofs.Session.Trace

/-!
# When a run succeeds

The success of a run is decided by its log alone. It agrees with the outcomes of the rounds all the
same: each rejected declaration, each skipped class and each failed one leaves an error, and nothing
else does.

* `Session.returns_errors`: one round.
* `Manifest.returns_isSuccess_iff`: a whole run, with any store.
-/

namespace ViewBinding

/-- Nothing was rejected, no class was skipped and none failed. -/
def Outcome.AllWell (o : Outcome) : Prop :=
  o.tally.rejected = 0 ∧ o.skipped = [] ∧ o.failed = []

theorem Outcome.isClean_iff_allWell {o : Outcome} : o.isClean = true ↔ o.AllWell := by
  simp [isClean, AllWell, and_assoc]

/-- A computation with a state returns its values from every state. -/
theorem Returns.run {m : Type → Type} [Monad m] [LawfulMonad m] {σ α : Type} {p : α → Prop}
    {x : StateT σ m α} (h : Returns p x) (s : σ) : Returns (fun r => p r.1) (x s) := by
  obtain ⟨y, rfl⟩ := h
  refine ⟨(fun r => ⟨(r.1.1, r.2), r.1.2⟩) <$> y s, ?_⟩
  rw [← comp_map, map_eq_pure_bind]
  rfl

section

variable {m : Type → Type} [Monad m] [LawfulMonad m]

/-- A round adds errors to the log exactly if not all went well in it. -/
theorem Session.returns_errors (s : Session) (store : Store m) (round : Round) :
    Returns (fun r => (∀ x ∈ r.1.log, x.level ≠ .error) ↔
      (∀ x ∈ s.log, x.level ≠ .error) ∧ r.2.AllWell) (s.runRound store round) := by
  refine (s.returns_runRound store round).mono ?_
  rintro _ ⟨verdicts, hv, rfl⟩
  have hlog : (s.afterRound round (round.gatherInto .empty) verdicts).log =
      s.log ++ (roundNote (s.rounds + 1) round.final ::
        (round.rejections ++ verdicts.flatMap fun v => v.2.diagnostics v.1)) := by
    simp [afterRound, Round.gatherInto, Gathering.gather_log]
  rw [hlog, List.forall_mem_append, no_errors_iff hv, ← isClean_iff (s := s),
    Outcome.isClean_iff_allWell]

/-- A run with valid settings and any store comes to a report, and succeeds exactly if all went well
in both of its rounds. -/
theorem Manifest.returns_isSuccess_iff (manifest : Manifest) {settings : Settings}
    (h : settings.check = .ok ()) (store : Store m) :
    Returns (fun result => ∃ report, result = .ok report ∧
      (report.isSuccess = true ↔ ∀ o ∈ report.rounds, o.AllWell))
      (manifest.run settings store) := by
  unfold Manifest.run
  rw [Session.start_eq_ok h]
  refine (Session.returns_errors _ store _).bind fun first hfirst => ?_
  refine (first.1.returns_errors store _).bind fun last hlast => ?_
  refine returns_pure ⟨_, rfl, ?_⟩
  -- The log starts without errors, and each round adds some exactly if not all went well in it.
  rw [Report.isSuccess_iff, hlast, hfirst]
  simp

end

/-! ## Builds -/

variable (manifest : Manifest) {settings : Settings}

/-- A dry build with valid settings comes to a report that tells whether all went well. -/
theorem checkManifest_isSuccess_iff (h : settings.check = .ok ()) :
    ∃ report, checkManifest manifest settings = .ok report ∧
      (report.isSuccess = true ↔ ∀ o ∈ report.rounds, o.AllWell) := by
  obtain ⟨report, hrun, hsuccess⟩ :=
    (manifest.returns_isSuccess_iff h MemoryStore.store).of_state {}
  refine ⟨report, ?_, hsuccess⟩
  rw [checkManifest, hrun]
  rfl

variable {σ : Type} {files : FileSystem (StateM σ)} {out : Path} {w w' : σ}

theorem bind_state {α β : Type} (x : StateM σ α) (f : α → StateM σ β) (w : σ) :
    (x >>= f) w = f (x w).1 (x w).2 := rfl

theorem generateManifest_of_makeDirs_error {reason : String}
    (hdirs : files.makeDirs out w = (.error reason, w')) :
    generateManifest files manifest out settings w =
      (.error (.outputDirectory out reason), w') := by
  rw [generateManifest, bind_state, hdirs]
  rfl

/-- So does a real build, once there is a directory. It writes one file for each injector. -/
theorem generateManifest_isSuccess_iff (h : settings.check = .ok ())
    (hdirs : files.makeDirs out w = (.ok (), w')) :
    ∃ report w'', generateManifest files manifest out settings w = (.ok report, w'') ∧
      (report.isSuccess = true ↔ ∀ o ∈ report.rounds, o.AllWell) ∧
      report.written.length = report.generated := by
  have hsuccess := ((manifest.returns_isSuccess_iff h (OutputDirectory.store files)).run
    { root := out }).of_state w'
  have hbooks := (manifest.triple_run (triple_create files out) settings { root := out }
    (Books.empty out)).of_state w'
  cases hrun : manifest.run settings (OutputDirectory.store files) { root := out } w' with
  | mk answer w'' =>
  obtain ⟨result, books⟩ := answer
  rw [hrun] at hsuccess hbooks
  obtain ⟨report, rfl, hreport⟩ := hsuccess
  refine ⟨{ report with written := books.written.map Path.text }, w'', ?_, hreport,
    (hbooks report rfl).contained.count⟩
  simp only [generateManifest, bind_state, hdirs, hrun]
  rfl

end ViewBinding
