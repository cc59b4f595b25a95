import ViewBinding.Proofs.Manifest.Containment

/-!
# What a build leaves in a tree of files

A build into a tree makes the directories on the way to its sources, puts each source in its file,
and leaves everything else as it was. All that is asked of the tree is that nothing stands in the
way of the root and the files of this build.

* `Manifest.legal_of_mem_sources`: the store has taken legal names only.
* `OutputDirectory.home_suffix_pathFor`: the files of legal names are below the root.
* `OutputDirectory.pathFor_eq_of_suffix`: and none of them is on the way to another one.
* `generateManifest_system`: a build into a tree.
-/

namespace ViewBinding

open Java Text

/-- The sources of a report have legal names, for the store has taken them. -/
theorem Manifest.legal_of_mem_sources (m : Manifest) (settings : Settings) {g : Generated}
    (hg : g ∈ (m.report settings).sources) : IsQualifiedName g.qualifiedName := by
  obtain ⟨o, ho, hgen⟩ := List.mem_flatMap.mp hg
  rw [report, List.mem_cons, List.mem_singleton] at ho
  obtain rfl | rfl := ho
  · obtain ⟨v, hv, hsome⟩ := List.mem_filterMap.mp hgen
    exact ((m.session settings).grown_settleAll m.roster.values {}).legal _
      (List.mem_filterMap.mpr ⟨v, hv, Option.map_eq_some_iff.mpr ⟨g, hsome, rfl⟩⟩)
  · cases hgen

/-! ## The files of sources -/

namespace OutputDirectory

variable {d : OutputDirectory} {home : Trail} {name name' : String}

/-- The file of a legal name is below the root. -/
theorem home_suffix_pathFor (h : IsQualifiedName name) (hroot : d.root.Spells home)
    (hplain : (d.pathFor name).IsPlain) : home <:+ (d.pathFor name).place.tail := by
  have hsteps := (d.leadsTo_pathFor h).steps
  rw [hplain.spells.steps_eq, hroot.steps_eq, List.map_append, List.map_singleton,
    ← List.append_assoc] at hsteps
  have hplace := congrArg List.reverse hsteps
  rw [List.reverse_reverse, List.reverse_append, List.reverse_append, List.reverse_reverse,
    List.reverse_singleton, List.singleton_append] at hplace
  rw [hplace]
  exact List.suffix_append _ home

/-- The way to the file of a legal name does not lead through that of another one. -/
theorem pathFor_eq_of_suffix (h : IsQualifiedName name) (h' : IsQualifiedName name')
    (hplain : (d.pathFor name).IsPlain) (hplain' : (d.pathFor name').IsPlain)
    (hsub : (d.pathFor name).place <:+ (d.pathFor name').place) :
    d.pathFor name = d.pathFor name' := by
  have hleads := d.leadsTo_pathFor h
  have hleads' := d.leadsTo_pathFor h'
  refine Path.text_inj.mp (hleads.eq_of_prefix hleads' (.ofName h) (.ofName h') ?_)
  rw [hplain.spells.steps_eq, hplain'.spells.steps_eq]
  exact List.reverse_prefix.mpr hsub

end OutputDirectory

/-- The files of all sources of a report below a root, with their texts. -/
def Report.texts (r : Report) (root : Path) : List (Path × String) :=
  r.sources.map fun g => (({ root } : OutputDirectory).pathFor g.qualifiedName, g.contents)

theorem Report.map_fst_texts (r : Report) (root : Path) :
    (r.texts root).map Prod.fst = r.paths root := by
  rw [texts, List.map_map]
  rfl

/-! ## The build -/

/-- A build into a tree where nothing stands in its way comes to the report of the dry build and the
files of all its sources, and leaves the tree with these. -/
theorem generateManifest_system (wording : FileFault → String) (m : Manifest) {settings : Settings}
    {root : Path} {home : Trail} {before : FileTree} (hs : settings.check = .ok ())
    (hroot : root.Spells home) (hclear : before.Clear home)
    (hplain : ∀ p ∈ (m.report settings).paths root, p.IsPlain)
    (hfree : ∀ p ∈ (m.report settings).paths root, before.Free p.place) :
    ∃ after, generateManifest (FileTree.system wording) m root settings before =
        (.ok { m.report settings with
          written := ((m.report settings).paths root).map Path.text }, after) ∧
      FileTree.Built before home ((m.report settings).texts root) after := by
  have hbelow : ∀ p ∈ (m.report settings).paths root, home <:+ p.place.tail := by
    intro p hp
    have hp' := hplain p hp
    obtain ⟨g, hg, rfl⟩ := List.mem_map.mp hp
    exact OutputDirectory.home_suffix_pathFor (m.legal_of_mem_sources settings hg) hroot hp'
  have hapart : ∀ p ∈ (m.report settings).paths root, ∀ q ∈ (m.report settings).paths root,
      p.place <:+ q.place → p = q := by
    intro p hp q hq
    have hp' := hplain p hp
    have hq' := hplain q hq
    obtain ⟨g, hg, rfl⟩ := List.mem_map.mp hp
    obtain ⟨g', hg', rfl⟩ := List.mem_map.mp hq
    exact OutputDirectory.pathFor_eq_of_suffix (m.legal_of_mem_sources settings hg)
      (m.legal_of_mem_sources settings hg') hp' hq'
  obtain ⟨hmade, hready⟩ := FileTree.ready_makeDirs wording hplain hbelow hroot hclear hfree
  obtain ⟨st, d, after, hrun, hm⟩ := generateManifest_of_ok m hs hmade hready
    (FileTree.serves_system wording hplain hbelow hapart)
  have hwritten : d.written = (m.report settings).paths root := by
    rw [hm.written, List.map_map]
    exact List.map_congr_left fun g _ => hm.pathFor_eq g.qualifiedName
  rw [hwritten] at hrun
  refine ⟨after, hrun, hm.ready.built hroot.plain hplain (Report.map_fst_texts _ root) ?_⟩
  intro e he
  obtain ⟨g, hg, rfl⟩ := List.mem_map.mp he
  have htext := hm.texts g.entry (List.mem_map_of_mem hg)
  rw [hm.pathFor_eq] at htext
  exact htext

end ViewBinding
