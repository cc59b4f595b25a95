import ViewBinding.Proofs.Files.Writing
import ViewBinding.Proofs.Manifest.DryBuild
import ViewBinding.Proofs.Session.Emission
import ViewBinding.Proofs.Store.Mirror

/-!
# Dry builds predict real ones

As long as its files can be written, a build of a manifest comes to what its dry build says: the
same error, or the same outcomes and messages. The files that it has written are those of the
generated sources, in order, and at the end each of them holds its source.

* `Session.runs_runRound`, `Manifest.runs_run`: a round and a whole run over both stores.
* `Manifest.hasPath_of_mem_values`: a run asks for no file but those of the sources it generates.
* `generateManifest_of_ok`: the state of a build whose dry build has come to a report.
* `dryBuild_predicts`: the dry build and the real one.
-/

namespace ViewBinding

/-- A generated source as a store sees it. -/
def Generated.entry (g : Generated) : String × String :=
  (g.qualifiedName, g.contents)

/-- All sources of a report, in the order of the rounds. -/
def Report.sources (r : Report) : List Generated :=
  r.rounds.flatMap (·.generated)

/-- The files of all sources of a report below a root, in the order of the rounds. -/
def Report.paths (r : Report) (root : Path) : List Path :=
  r.sources.map fun g => ({ root } : OutputDirectory).pathFor g.qualifiedName

/-- If the source of an injector has a legal name, its file below the root is among the paths. -/
def Injector.HasPath (i : Injector) (settings : Settings) (root : Path) (paths : List Path) :
    Prop :=
  i.HasSource settings → Java.IsQualifiedName (i.host.injectorQualifiedName settings.classSuffix) →
    ({ root } : OutputDirectory).pathFor (i.host.injectorQualifiedName settings.classSuffix) ∈ paths

/-! ## A run over both stores -/

section

variable {σ : Type} {files : FileSystem (StateM σ)} {text? : σ → Path → Option String}
  {paths : List Path} {ready : σ → Prop}

section

variable (h : files.Serves text? paths ready) {root : Path}

include h

theorem Injector.runs_emit (taken : List (String × String)) {i : Injector} {settings : Settings}
    (hpath : i.HasPath settings root paths) (version : SourceVersion) :
    Runs (Mirrors root text? paths ready taken) (i.emit settings version MemoryStore.store)
      (i.emit settings version (OutputDirectory.store files)) fun r =>
        Mirrors root text? paths ready (taken ++ (r.toOption.map Generated.entry).toList) := by
  unfold emit
  cases hg : i.generate settings version with
  | error e =>
    refine runs_pure fun st d disk hm => ?_
    simpa [Except.toOption] using hm
  | ok g =>
    -- A source is only handed over once it is there, so only then is its file asked for.
    have hsource := (i.exists_generate_iff settings version).mp ⟨g, hg⟩
    rw [HasPath, ← qualifiedName_of_generate hg] at hpath
    refine (runs_create h root taken ⟨g.qualifiedName, i.host, g.contents⟩ (hpath hsource)).bind
      fun answer => ?_
    cases answer with
    | error cause =>
      refine runs_pure fun st d disk hm => ?_
      simpa [Except.toOption, takenAfter] using hm
    | ok => exact runs_pure fun st d disk hm => hm

namespace Session

variable (s : Session)

theorem runs_settle (taken : List (String × String)) {i : Injector}
    (hpath : i.HasPath s.settings root paths) :
    Runs (Mirrors root text? paths ready taken) (s.settle MemoryStore.store i)
      (s.settle (OutputDirectory.store files) i) fun v =>
        Mirrors root text? paths ready (taken ++ (v.2.generated?.map Generated.entry).toList) := by
  unfold settle
  cases i.hasConflicts with
  | true =>
    refine runs_pure fun st d disk hm => ?_
    simpa [Verdict.generated?] using hm
  | false =>
    refine (Injector.runs_emit h taken hpath s.version).bind fun r => ?_
    cases r with
    | error e => exact runs_pure fun st d disk hm => hm
    | ok g => exact runs_pure fun st d disk hm => hm

theorem runs_settleAll (taken : List (String × String)) {is : List Injector}
    (hpath : ∀ i ∈ is, i.HasPath s.settings root paths) :
    Runs (Mirrors root text? paths ready taken) (s.settleAll MemoryStore.store is)
      (s.settleAll (OutputDirectory.store files) is) fun vs => Mirrors root text? paths ready
        (taken ++ (vs.filterMap (·.2.generated?)).map Generated.entry) := by
  induction is generalizing taken with
  | nil =>
    refine runs_pure fun st d disk hm => ?_
    simpa using hm
  | cons i rest ih =>
    obtain ⟨hi, hrest⟩ := List.forall_mem_cons.mp hpath
    refine (s.runs_settle h taken hi).bind fun v => (ih _ hrest).bind fun vs => ?_
    refine runs_pure fun st d disk hm => ?_
    cases hv : v.2.generated? <;> simpa [hv] using hm

/-- A round over both stores. -/
theorem runs_runRound (taken : List (String × String)) (round : Round)
    (hpath : ∀ i ∈ (round.gatherInto .empty).roster.values, i.HasPath s.settings root paths) :
    Runs (Mirrors root text? paths ready taken) (s.runRound MemoryStore.store round)
      (s.runRound (OutputDirectory.store files) round) fun r =>
        Mirrors root text? paths ready (taken ++ r.2.generated.map Generated.entry) :=
  (s.runs_settleAll h taken hpath).bind fun _ => runs_pure fun _ _ _ hm => hm

end Session

/-- A whole run over both stores, which have taken the sources of the report in the end. -/
theorem Manifest.runs_run (m : Manifest) {settings : Settings} (hs : settings.check = .ok ())
    (hpath : ∀ i ∈ m.roster.values, i.HasPath settings root paths) :
    Runs (Mirrors root text? paths ready []) (m.run settings MemoryStore.store)
      (m.run settings (OutputDirectory.store files)) fun result st d disk =>
        ∀ report, result = .ok report →
          Mirrors root text? paths ready (report.sources.map Generated.entry) st d disk := by
  unfold Manifest.run
  rw [Session.start_eq_ok hs]
  refine ((m.session settings).runs_runRound h [] m.round hpath).bind fun first => ?_
  -- The closing round has no injectors, so it asks for no file.
  have hclosing : ∀ i ∈ (Round.closing.gatherInto .empty).roster.values,
      i.HasPath first.1.settings root paths := fun i hi => absurd hi List.not_mem_nil
  refine (first.1.runs_runRound h _ .closing hclosing).bind fun last => ?_
  refine runs_pure fun st d disk hm report hr => ?_
  cases hr
  simpa [Report.sources] using hm

end

/-! ## Builds -/

/-- An injector with a source and a legal name has its file among those of the report: its own
source has been taken, or one of that name before it. -/
theorem Manifest.hasPath_of_mem_values (m : Manifest) (settings : Settings) (root : Path)
    {i : Injector} (hi : i ∈ m.roster.values) :
    i.HasPath settings root ((m.report settings).paths root) := by
  intro hsource hlegal
  let run := (m.session settings).settleAll MemoryStore.store m.roster.values {}
  -- After the dry build the store in memory holds each legal name of a source.
  have hholds : run.2.Holds (i.host.injectorQualifiedName settings.classSuffix) :=
    (Session.holds_settleAll_iff hlegal m.roster.values List.not_mem_nil).mpr
      (.inr ⟨i, hi, hsource, rfl⟩)
  have hgrown : MemoryStore.Grown {} (generatedFiles run.1) run.2 :=
    (m.session settings).grown_settleAll m.roster.values {}
  have hnone (name : String) : ¬ MemoryStore.Holds {} name := by simp [MemoryStore.Holds]
  obtain ⟨f, hf, hname⟩ := ((hgrown.holds_iff _).mp hholds).resolve_left (hnone _)
  obtain ⟨v, hv, hfile⟩ := List.mem_filterMap.mp hf
  obtain ⟨g, hg, rfl⟩ := Option.map_eq_some_iff.mp hfile
  have hmem : g ∈ (m.report settings).sources :=
    List.mem_flatMap.mpr ⟨_, List.mem_cons_self, List.mem_filterMap.mpr ⟨v, hv, hg⟩⟩
  exact List.mem_map.mpr ⟨g, hmem, congrArg _ hname⟩

/-- A build returns what its run returns, with the files that the books name. -/
theorem generateManifest_eq (m : Manifest) (settings : Settings) {root : Path} {disk : σ}
    (hroot : (files.makeDirs root disk).1 = .ok ()) :
    generateManifest files m root settings disk =
      let r := m.run settings (OutputDirectory.store files) { root } (files.makeDirs root disk).2
      (match r.1.1 with
        | .error e => .error (.start e)
        | .ok report => .ok { report with written := r.1.2.written.map Path.text }, r.2) := by
  unfold generateManifest
  simp only [bind, StateT.bind]
  generalize files.makeDirs root disk = started at hroot
  obtain ⟨answer, disk'⟩ := started
  subst hroot
  simp only [StateT.bind, bind]
  generalize m.run settings (OutputDirectory.store files) { root } disk' = r
  obtain ⟨⟨result, books⟩, disk''⟩ := r
  cases result <;> rfl

/-- With settings that are not valid, no session starts, and both builds say why. -/
theorem generateManifest_of_invalid (m : Manifest) {settings : Settings} {root : Path} {disk : σ}
    {problems : Problems} (hs : settings.check = .error problems)
    (hroot : (files.makeDirs root disk).1 = .ok ()) :
    checkManifest m settings = .error (.start (.invalidSettings problems)) ∧
      (generateManifest files m root settings disk).1 =
        .error (.start (.invalidSettings problems)) := by
  have hstart : Session.start { version := m.version } settings =
      .error (.invalidSettings problems) := by
    rw [Session.start, hs]
  rw [generateManifest_eq m settings hroot]
  unfold checkManifest Manifest.run
  rw [hstart]
  exact ⟨rfl, rfl⟩

/-- With valid settings, a build comes to the report of the dry build and the files that its books
name. In the end the directory has taken the sources of the report, as the store in memory has. -/
theorem generateManifest_of_ok (m : Manifest) {settings : Settings} {root : Path} {disk : σ}
    (hs : settings.check = .ok ()) (hroot : (files.makeDirs root disk).1 = .ok ())
    (hready : ready (files.makeDirs root disk).2)
    (hserves : files.Serves text? ((m.report settings).paths root) ready) :
    ∃ st d disk', generateManifest files m root settings disk =
        (.ok { m.report settings with written := d.written.map Path.text }, disk') ∧
      Mirrors root text? ((m.report settings).paths root) ready
        ((m.report settings).sources.map Generated.entry) st d disk' := by
  obtain ⟨hvalue, hafter⟩ := m.runs_run hserves hs
    (fun i hi => m.hasPath_of_mem_values settings root hi) {} { root } _
    (Mirrors.empty root text? _ hready)
  have hreal := generateManifest_eq m settings hroot
  have hrun : (m.run settings MemoryStore.store {}).1 = .ok (m.report settings) := by
    have hcheck := checkManifest_eq (m := m) hs
    unfold checkManifest at hcheck
    cases hr : (m.run settings MemoryStore.store {}).1 with
    | error e =>
      rw [hr] at hcheck
      cases hcheck
    | ok report =>
      rw [hr] at hcheck
      cases hcheck
      rfl
  rw [hrun] at hvalue hafter
  generalize m.run settings (OutputDirectory.store files) { root } (files.makeDirs root disk).2 = r
    at hvalue hafter hreal
  obtain ⟨⟨result, d⟩, disk'⟩ := r
  cases hvalue
  exact ⟨_, d, disk', hreal, hafter _ rfl⟩

/-- The dry build of a manifest predicts the real one, as long as the output directory can be made,
and the files of the sources of the dry build can be written in it. One of them fails exactly if the
other does, with the same error. Otherwise they have the same outcomes and messages; the dry build
has written nothing, and the real one has written the file of each generated source, in order, and
at the end each file holds its source. -/
theorem dryBuild_predicts (m : Manifest) (settings : Settings) (root : Path) (disk : σ)
    (hroot : (files.makeDirs root disk).1 = .ok ()) (hready : ready (files.makeDirs root disk).2)
    (hserves : ∀ dry, checkManifest m settings = .ok dry →
      files.Serves text? (dry.paths root) ready) :
    let real := generateManifest files m root settings disk
    (∀ e, checkManifest m settings = .error e ↔ real.1 = .error e) ∧
    ∀ dry, checkManifest m settings = .ok dry → dry.written = [] ∧
      ∃ report, real.1 = .ok report ∧ report.rounds = dry.rounds ∧ report.log = dry.log ∧
        let file (g : Generated) := ({ root } : OutputDirectory).pathFor g.qualifiedName
        report.written = dry.sources.map (fun g => (file g).text) ∧
        ∀ g ∈ dry.sources, text? real.2 (file g) = some g.contents := by
  intro real
  cases hs : settings.check with
  | error problems =>
    obtain ⟨hcheck, hreal⟩ := generateManifest_of_invalid m hs hroot
    rw [hcheck, show real.1 = _ from hreal]
    refine ⟨fun e => ?_, fun dry hdry => by cases hdry⟩
    constructor <;> intro he <;> cases he <;> rfl
  | ok =>
    have hcheck := checkManifest_eq (m := m) hs
    obtain ⟨st, d, disk', hreal, hm⟩ :=
      generateManifest_of_ok m hs hroot hready (hserves _ hcheck)
    rw [hcheck, show real = _ from hreal]
    constructor
    · intro e
      constructor <;> intro he <;> cases he
    · rintro _ ⟨⟩
      refine ⟨rfl, _, rfl, rfl, rfl, ?_, fun g hg => ?_⟩
      · simp only [hm.written, List.map_map]
        exact List.map_congr_left fun g _ => congrArg Path.text (hm.pathFor_eq g.qualifiedName)
      · have htext := hm.texts g.entry (List.mem_map_of_mem hg)
        rw [hm.pathFor_eq] at htext
        exact htext

end

/-- The text that was last written at a path. -/
def onSlate (slate : List (Path × String)) (path : Path) : Option String :=
  lookupEntry path slate

/-- Files on a slate: directories need not be made, and a text stays until another one is written at
its path. -/
def FileSystem.slate : FileSystem (StateM (List (Path × String))) where
  readText path slate := ((onSlate slate path).elim (.error "no such file") .ok, slate)
  makeDirs _ slate := (.ok (), slate)
  write path text slate := (.ok (), (path, text) :: slate)

theorem FileSystem.reliable_slate : slate.Reliable onSlate :=
  ⟨fun _ _ => rfl, fun _ _ => rfl, fun _ _ _ => rfl, fun _ _ _ _ => rfl⟩

/-- Two classes whose injectors have one name, one in a package of its own, and one whose package is
not legal. -/
def tangledManifest : Manifest where
  classes := [
    { name := "app.Form.Row"
      members := [{ kind := .field, name := "title", type := "Label", bindView := some 1 }] },
    { name := "app.Form$Row"
      members := [{ kind := .field, name := "label", type := "Label", bindView := some 2 }] },
    { name := "app.deep.Note"
      members := [{ kind := .field, name := "text", type := "Label", bindView := some 4 }] },
    { name := "app.Main", package := some "1st"
      members := [{ kind := .field, name := "note", type := "Label", bindView := some 3 }] }]

/-- The files of an earlier build, and one that has nothing to do with it. -/
def oldTree : FileTree where
  entries :=
    (((SortedMap.empty.insert "out" .directory).insert "out/app" .directory).insert
      "out/app/Form$Row$$ViewInjector.java" (.file (some "old"))).insert
      "notes.txt" (.file (some "kept"))

theorem dryBuild_predicts_tangledManifest :
    let files := FileTree.system FileFault.message
    let root : Path := ⟨"out"⟩
    let paths := (tangledManifest.report {}).paths root
    let ready := FileTree.Ready oldTree root.place paths
    paths = [⟨"out/app/Form$Row$$ViewInjector.java"⟩, ⟨"out/app/deep/Note$$ViewInjector.java"⟩] ∧
    (files.makeDirs root oldTree).1 = .ok () ∧ ready (files.makeDirs root oldTree).2 ∧
    files.Serves FileTree.text? paths ready ∧
    (files.makeDirs ⟨"notes.txt"⟩ oldTree).1 = .error "file exists" ∧
    ∃ dry, checkManifest tangledManifest {} = .ok dry ∧
      dry.rounds.flatMap (·.failed) = ["app.Form.Row", "app.Main"] ∧
      let real := generateManifest files tangledManifest root {} oldTree
      ∃ report, real.1 = .ok report ∧ report.rounds = dry.rounds ∧
        report.written = paths.map Path.text ∧ real.2.text? ⟨"notes.txt"⟩ = some "kept" ∧
        (∀ g ∈ dry.sources, real.2.text? (({ root } : OutputDirectory).pathFor g.qualifiedName) =
          some g.contents) ∧
        FileSystem.slate.Reliable onSlate ∧
        (generateManifest FileSystem.slate tangledManifest root {} []).1 = .ok report := by
  intro files root paths ready
  have hpaths : paths = [⟨"out/app/Form$Row$$ViewInjector.java"⟩,
      ⟨"out/app/deep/Note$$ViewInjector.java"⟩] := by decide +kernel
  have hplain : ∀ p ∈ paths, p.IsPlain := by
    rw [hpaths]
    decide +kernel
  have hroot : root.Spells root.place := Path.IsPlain.spells (by decide +kernel)
  have hfree : ∀ p ∈ paths, oldTree.Free p.place := by
    rw [hpaths]
    decide +kernel
  have hbelow : ∀ p ∈ paths, root.place <:+ p.place.tail := by
    rw [hpaths]
    decide +kernel
  have hapart : ∀ p ∈ paths, ∀ q ∈ paths, p.place <:+ q.place → p = q := by
    rw [hpaths]
    decide +kernel
  have hserves : files.Serves FileTree.text? paths ready :=
    FileTree.serves_system FileFault.message hplain hbelow hapart
  obtain ⟨hmade, hready⟩ := FileTree.ready_makeDirs FileFault.message hplain hbelow hroot
    (by decide +kernel) hfree
  have hcheck := checkManifest_eq (m := tangledManifest) Settings.check_default
  obtain ⟨-, hdry⟩ := dryBuild_predicts tangledManifest {} root oldTree hmade hready
    fun dry h => by
      obtain rfl := Except.ok.inj (hcheck.symm.trans h)
      exact hserves
  obtain ⟨-, report, hreport, hrounds, hlog, hwritten, htexts⟩ := hdry _ hcheck
  obtain ⟨-, hslate⟩ := dryBuild_predicts tangledManifest {} root [] rfl trivial
    fun _ _ => FileSystem.reliable_slate.serves _
  obtain ⟨-, report', hreport', hrounds', hlog', hwritten', -⟩ := hslate _ hcheck
  have hsame : report' = report := by
    obtain ⟨rounds, log, written⟩ := report
    obtain ⟨rounds', log', written'⟩ := report'
    simp only at hrounds hlog hwritten hrounds' hlog' hwritten'
    rw [hrounds, hrounds', hlog, hlog', hwritten, hwritten']
  refine ⟨hpaths, hmade, hready, hserves, by decide +kernel, _, hcheck, by decide +kernel, report,
    hreport, hrounds, ?_, by decide +kernel, htexts, FileSystem.reliable_slate, hsame ▸ hreport'⟩
  rw [hwritten]
  exact (List.map_map).symm

end ViewBinding
