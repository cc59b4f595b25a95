import ViewBinding.Build
import ViewBinding.Proofs.Gathering.Reference
import ViewBinding.Proofs.Session.Settling

/-!
# What a dry build reports

A dry build with valid settings always comes to a report. Its first round holds the verdicts on the
injectors of the manifest, and its closing round nothing.

* `checkManifest_eq`: the report, outcome by outcome and message by message.
* `Manifest.settled_verdicts`: the verdicts fit the injectors.
-/

namespace ViewBinding

namespace Manifest

/-- The round with all declarations of the manifest. -/
def round (m : Manifest) : Round :=
  .ofDeclarations m.declarations

/-- The injectors of the manifest, under the names of their classes. -/
def roster (m : Manifest) : Roster :=
  (m.round.gatherInto .empty).roster

/-- The session of a dry build before its first round. -/
def session (m : Manifest) (settings : Settings) : Session :=
  { settings, version := m.version }

/-- The verdicts of a dry build, in the order of the classes. -/
def verdicts (m : Manifest) (settings : Settings) : List (HostClass × Verdict) :=
  ((m.session settings).settleAll MemoryStore.store m.roster.values {}).1

/-- The report of a dry build. -/
def report (m : Manifest) (settings : Settings) : Report where
  rounds := [.ofVerdicts 1 (m.round.gatherInto .empty).tally (m.verdicts settings),
    .ofVerdicts 2 {} []]
  log := Session.roundNote 1 false ::
    (m.round.rejections ++ (m.verdicts settings).flatMap fun v => v.2.diagnostics v.1) ++
      [Session.roundNote 2 true]

/-- The verdicts fit the injectors, one by one. -/
theorem settled_verdicts (m : Manifest) (settings : Settings) :
    List.Forall₂ (Settled (m.session settings)) m.roster.values (m.verdicts settings) :=
  ((m.session settings).returns_settleAll MemoryStore.store m.roster.values).of_state {}

/-- The roster of a manifest reflects the sightings of its round. -/
theorem reflects_roster (m : Manifest) : m.roster.Reflects m.round.sightings :=
  Roster.reflects_empty.gatherInto m.round

end Manifest

theorem Session.start_eq_ok {settings : Settings} (h : settings.check = .ok ())
    (version : SourceVersion) :
    Session.start { version } settings =
      .ok ({ settings, version }, { store := false, log := false, version }) := by
  simp [Session.start, h]

/-- A round and the closing round leave their notes, and the first of them its errors. -/
theorem Session.log_afterRound_closing (s : Session) (round : Round)
    (verdicts : List (HostClass × Verdict)) :
    ((s.afterRound round (round.gatherInto .empty) verdicts).afterRound .closing
        (Round.closing.gatherInto .empty) []).log =
      s.log ++ roundNote (s.rounds + 1) round.final ::
        (round.rejections ++ verdicts.flatMap fun v => v.2.diagnostics v.1) ++
          [roundNote (s.rounds + 2) true] := by
  have hlog : (round.gatherInto .empty).log = round.rejections := Gathering.gather_log round {}
  have hclosing : (Round.closing.gatherInto .empty).log = [] := rfl
  have hfinal : Round.closing.final = true := rfl
  simp [afterRound, hlog, hclosing, hfinal]

/-- A dry build with valid settings comes to its report. -/
theorem checkManifest_eq {m : Manifest} {settings : Settings} (h : settings.check = .ok ()) :
    checkManifest m settings = .ok (m.report settings) := by
  have hlog := (m.session settings).log_afterRound_closing m.round (m.verdicts settings)
  unfold checkManifest Manifest.run
  rw [Session.start_eq_ok h]
  exact congrArg (fun log => Except.ok { m.report settings with log }) hlog

end ViewBinding
