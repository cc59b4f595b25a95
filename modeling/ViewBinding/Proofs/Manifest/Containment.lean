import ViewBinding.Proofs.Manifest.RealBuild
import ViewBinding.Proofs.Store.Books

/-!
# Builds write below their root only

A build takes its manifest as it is: the names of classes and packages can be any texts, also such
that lead out of a directory or start at the root of the disk. Every file that it writes is below
its output directory all the same, for a source whose name is not legal is not taken, and the steps
to any other go down. No two sources have one file, and no file is where another one has a
directory.

* `Session.triple_runRound`, `Manifest.triple_run`: an invariant of a store holds all along a build.
* `IsSourceWay.eq_of_prefix`: no way to a source goes on to another one.
* `generateManifest_contained`: the paths in the report of a build.
-/

namespace ViewBinding

open Java Text

variable {m : Type → Type} [Monad m] [LawfulMonad m]

/-! ## Invariants of stores -/

section

variable {σ : Type} {store : Store (StateT σ m)} {I : List (String × String) → σ → Prop}
  (h : ∀ taken file, Triple (I taken) (store.create file)
    fun answer => I (takenAfter taken file answer))

include h

theorem Injector.triple_emit (taken : List (String × String)) (i : Injector) (settings : Settings)
    (version : SourceVersion) :
    Triple (I taken) (i.emit settings version store)
      fun r => I (taken ++ (r.toOption.map Generated.entry).toList) := by
  unfold emit
  cases i.generate settings version with
  | error e =>
    refine triple_pure fun d hd => ?_
    simpa [Except.toOption] using hd
  | ok g =>
    refine (h taken ⟨g.qualifiedName, i.host, g.contents⟩).bind fun answer => ?_
    cases answer with
    | error cause =>
      refine triple_pure fun d hd => ?_
      simpa [Except.toOption, takenAfter] using hd
    | ok => exact triple_pure fun d hd => hd

namespace Session

variable (s : Session)

theorem triple_settle (taken : List (String × String)) (i : Injector) :
    Triple (I taken) (s.settle store i)
      fun v => I (taken ++ (v.2.generated?.map Generated.entry).toList) := by
  unfold settle
  cases i.hasConflicts with
  | true =>
    refine triple_pure fun d hd => ?_
    simpa [Verdict.generated?] using hd
  | false =>
    refine (i.triple_emit h taken s.settings s.version).bind fun r => ?_
    cases r with
    | error e => exact triple_pure fun d hd => hd
    | ok g => exact triple_pure fun d hd => hd

theorem triple_settleAll (taken : List (String × String)) (is : List Injector) :
    Triple (I taken) (s.settleAll store is)
      fun vs => I (taken ++ (vs.filterMap (·.2.generated?)).map Generated.entry) := by
  induction is generalizing taken with
  | nil =>
    refine triple_pure fun d hd => ?_
    simpa using hd
  | cons i rest ih =>
    refine (s.triple_settle h taken i).bind fun v => (ih _).bind fun vs => ?_
    refine triple_pure fun d hd => ?_
    cases hv : v.2.generated? <;> simpa [hv] using hd

/-- A round hands the sources of its outcome to the store. -/
theorem triple_runRound (taken : List (String × String)) (round : Round) :
    Triple (I taken) (s.runRound store round)
      fun r => I (taken ++ r.2.generated.map Generated.entry) :=
  (s.triple_settleAll h taken _).bind fun _ => triple_pure fun _ hd => hd

end Session

/-- A whole run hands the sources of its report to the store. -/
theorem Manifest.triple_run (manifest : Manifest) (settings : Settings) :
    Triple (I []) (manifest.run settings store) fun result d =>
      ∀ report, result = .ok report → I (report.sources.map Generated.entry) d := by
  unfold Manifest.run
  cases Session.start { version := manifest.version } settings with
  | error e => exact triple_pure fun d hd report hr => by cases hr
  | ok started =>
    obtain ⟨s, -⟩ := started
    refine (s.triple_runRound h [] _).bind fun first => ?_
    refine (first.1.triple_runRound h _ _).bind fun last => ?_
    refine triple_pure fun d hd report hr => ?_
    cases hr
    simpa [Report.sources] using hd

end

/-! ## Ways to sources -/

/-- The steps to a source: a legal identifier for each directory, and a legal identifier with its
extension for the file. -/
def IsSourceWay (way : List String) : Prop :=
  ∃ dirs cls, way = dirs ++ [cls ++ ".java"] ∧ (∀ dir ∈ dirs, IsIdentifier dir) ∧ IsIdentifier cls

/-- A step that leads to a name of its own, one directory further down. -/
def IsPlainStep (step : String) : Prop :=
  step ≠ "" ∧ step ≠ "." ∧ step ≠ ".." ∧ '/' ∉ step.toList

/-- The path is the root with the steps of the way after it, and it has no others. -/
structure LeadsTo (root : Path) (way : List String) (path : String) : Prop where
  text : path.toList =
    root.text.toList ++ Path.gap root.text.toList ++ joinWith '/' (way.map String.toList)
  steps : Path.steps path.toList = Path.steps root.text.toList ++ way.map String.toList

namespace IsSourceWay

variable {way way' : List String} {name : String}

theorem ofName (h : IsQualifiedName name) :
    IsSourceWay (OutputDirectory.packageSteps name ++ [OutputDirectory.fileName name]) := by
  obtain ⟨before, last, hs, hsteps, hfile⟩ := OutputDirectory.exists_segments h
  have hlegal := isQualifiedName_iff.mp h
  rw [hs] at hlegal
  refine ⟨_, _, by rw [hsteps, hfile], fun dir hdir => ?_, hlegal last (by simp)⟩
  obtain ⟨piece, hpiece, rfl⟩ := List.mem_map.mp hdir
  exact hlegal piece (List.mem_append_left _ hpiece)

theorem isPlainStep (h : IsSourceWay way) : ∀ step ∈ way, IsPlainStep step := by
  obtain ⟨dirs, cls, rfl, hdirs, hcls⟩ := h
  intro step hstep
  rcases List.mem_append.mp hstep with hstep | hstep
  · have hid := hdirs step hstep
    have hdot := hid.not_mem isIdentifierPart_dot
    refine ⟨?_, ?_, ?_, hid.not_mem isIdentifierPart_slash⟩
    · rintro rfl
      exact hid.toList_ne_nil rfl
    · rintro rfl
      exact hdot (by decide)
    · rintro rfl
      exact hdot (by decide)
  · rw [List.mem_singleton.mp hstep]
    -- With its extension, the name of a file is too long to be one of the dots.
    have hlength : 6 ≤ (cls ++ ".java").toList.length := by
      have hpos := List.length_pos_iff.mpr hcls.toList_ne_nil
      simp only [String.toList_append, List.length_append]
      exact Nat.add_le_add_right hpos 5
    refine ⟨?_, ?_, ?_, (OutputDirectory.isStep_of_isIdentifier hcls).2.2⟩
    all_goals
      intro heq
      rw [heq] at hlength
      exact absurd hlength (by decide)

/-- The file of a source is no directory of another one, for its name holds a dot. -/
theorem eq_of_prefix (h : IsSourceWay way) (h' : IsSourceWay way') (hpre : way <+: way') :
    way = way' := by
  obtain ⟨dirs, cls, rfl, -⟩ := h
  obtain ⟨dirs', cls', rfl, hdirs', -⟩ := h'
  obtain ⟨rest, hrest⟩ := hpre
  -- If the other way went on, the file of this one would be one of its directories.
  rcases List.eq_nil_or_concat rest with rfl | ⟨front, last, rfl⟩
  · rw [← hrest, List.append_nil]
  · rw [List.concat_eq_append, ← List.append_assoc] at hrest
    have hmem : cls ++ ".java" ∈ dirs' := by
      rw [← (List.append_inj' hrest rfl).1]
      simp
    exact absurd (by simp) ((hdirs' _ hmem).not_mem isIdentifierPart_dot)

end IsSourceWay

/-- No path to a source leads on to another one from the same root. -/
theorem LeadsTo.eq_of_prefix {root : Path} {way way' : List String} {path path' : String}
    (h : LeadsTo root way path) (h' : LeadsTo root way' path') (hway : IsSourceWay way)
    (hway' : IsSourceWay way')
    (hpre : Path.steps path.toList <+: Path.steps path'.toList) : path = path' := by
  rw [h.steps, h'.steps, List.prefix_append_right_inj,
    List.prefix_map_iff_of_injective fun a b => String.toList_inj.mp] at hpre
  rw [← String.toList_inj, h.text, h'.text, hway.eq_of_prefix hway' hpre]

namespace OutputDirectory

/-- The file of a legal name is where its way leads to. -/
theorem leadsTo_pathFor (d : OutputDirectory) {name : String} (h : IsQualifiedName name) :
    LeadsTo d.root (packageSteps name ++ [fileName name]) (d.pathFor name).text := by
  have hway := IsSourceWay.ofName h
  refine ⟨d.toList_pathFor h, ?_⟩
  rw [d.toList_pathFor h]
  refine Path.steps_append_gap _ (by simp) fun piece hpiece => ?_
  obtain ⟨step, hstep, rfl⟩ := List.mem_map.mp hpiece
  obtain ⟨hempty, hdot, -, hslash⟩ := hway.isPlainStep step hstep
  refine ⟨hslash, ?_⟩
  rw [Path.isIdle, Bool.or_eq_false_iff]
  refine ⟨?_, decide_eq_false fun heq => hdot (String.toList_inj.mp heq)⟩
  rw [List.isEmpty_eq_false_iff]
  exact fun hnil => hempty (String.toList_inj.mp hnil)

end OutputDirectory

/-! ## Reports -/

/-- What the paths in the report of a build promise. -/
structure Report.Contained (root : Path) (r : Report) : Prop where
  below : ∀ path ∈ r.written, ∃ way, IsSourceWay way ∧ (∀ step ∈ way, IsPlainStep step) ∧
    LeadsTo root way path
  distinct : r.written.Nodup
  apart : ∀ path ∈ r.written, ∀ path' ∈ r.written,
    Path.steps path.toList <+: Path.steps path'.toList → path = path'
  count : r.written.length = r.generated

/-- Books that agree with the sources of a report promise this for the files they name. -/
theorem Books.contained {root : Path} {r : Report} {d : OutputDirectory}
    (h : Books root (r.sources.map Generated.entry) d) :
    Report.Contained root { r with written := d.written.map Path.text } := by
  have hbelow : ∀ path ∈ d.written.map Path.text, ∃ way, IsSourceWay way ∧
      LeadsTo root way path := by
    intro path hpath
    rw [h.written, List.map_map] at hpath
    obtain ⟨e, he, rfl⟩ := List.mem_map.mp hpath
    exact ⟨_, .ofName (h.legal e he), h.root ▸ d.leadsTo_pathFor (h.legal e he)⟩
  refine ⟨fun path hpath => ?_, ?_, fun path hpath path' hpath' hpre => ?_, ?_⟩
  · obtain ⟨way, hway, hleads⟩ := hbelow path hpath
    exact ⟨way, hway, hway.isPlainStep, hleads⟩
  · show (d.written.map Path.text).Nodup
    rw [h.written, List.map_map]
    refine List.Nodup.map_on (fun e he e' he' heq => ?_) (List.Nodup.of_map _ h.distinct)
    have hname := (d.pathFor_inj (h.legal e he) (h.legal e' he')).mp (Path.text_inj.mp heq)
    exact List.inj_on_of_nodup_map h.distinct he he' hname
  · obtain ⟨way, hway, hleads⟩ := hbelow path hpath
    obtain ⟨way', hway', hleads'⟩ := hbelow path' hpath'
    exact hleads.eq_of_prefix hleads' hway hway' hpre
  · show (d.written.map Path.text).length = r.generated
    rw [h.written, List.length_map, List.length_map, List.length_map]
    rfl

/-- Whatever the manifest names and whatever the files do, the paths in the report of a build are
those of sources below the root. -/
theorem generateManifest_contained (files : FileSystem m) (manifest : Manifest) (root : Path)
    (settings : Settings) :
    Returns (fun r => ∀ report, r = .ok report → report.Contained root)
      (generateManifest files manifest root settings) := by
  unfold generateManifest
  refine (returns_of_forall fun _ => trivial).bind fun made _ => ?_
  cases made with
  | error reason => exact returns_pure fun report hr => by cases hr
  | ok =>
    have hrun := manifest.triple_run (triple_create files root) settings
    refine (hrun { root } (Books.empty root)).bind fun r hr => ?_
    obtain ⟨result, books⟩ := r
    cases result with
    | error e => exact returns_pure fun report hr => by cases hr
    | ok run =>
      refine returns_pure fun report hreport => ?_
      cases hreport
      exact (hr run rfl).contained

/-- Files on a slate with room for so many texts. -/
def FileSystem.shortSlate (room : Nat) : FileSystem (StateM (List (Path × String))) where
  readText := slate.readText
  makeDirs := slate.makeDirs
  write path text disk :=
    if disk.length < room then slate.write path text disk
    else (.error "no space left on device", disk)

/-- Packages that would lead out of a directory, and two classes that are named as they should. -/
def hostileManifest : Manifest where
  classes := [
    { name := "up.Evil", package := some "../up"
      members := [{ kind := .field, name := "title", type := "Label", bindView := some 1 }] },
    { name := "etc.Evil", package := some "/etc"
      members := [{ kind := .field, name := "title", type := "Label", bindView := some 2 }] },
    { name := "app.Main"
      members := [{ kind := .field, name := "title", type := "Label", bindView := some 3 }] },
    { name := "app.Next"
      members := [{ kind := .field, name := "title", type := "Label", bindView := some 4 }] }]

theorem generateManifest_contained_hostileManifest :
    LawfulMonad (StateM (List (Path × String))) ∧
    let run := generateManifest (FileSystem.shortSlate 1) hostileManifest ⟨"out"⟩ {}
    Returns (fun r => ∀ report, r = .ok report → report.Contained ⟨"out"⟩) run ∧
    (run []).1.toOption.map (·.written) = some ["out/app/Main$$ViewInjector.java"] ∧
    (run []).1.toOption.map (·.rounds.map (·.failed)) =
      some [["app.Next", "etc.Evil", "up.Evil"], []] :=
  ⟨inferInstance, generateManifest_contained _ _ _ _, by decide +kernel, by decide +kernel⟩

end ViewBinding
