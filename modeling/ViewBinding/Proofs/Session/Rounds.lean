import Mathlib.Data.List.Forall2
import ViewBinding.Proofs.Session.InMemory

/-!
# Sessions of several rounds

A session may run any number of rounds on one store. With a store in memory that starts empty, each
round adds the files of the sources it has generated and leaves all others as they are, so at any
time the store holds one file for each source generated so far.

* `Session.runRounds`: the rounds of a session, one after the other.
* `MemoryStore.Extends`: what one round does to a store.
* `Session.grown_runRounds`: the files that any rounds add.
* `Session.runRounds_keeps`: no file is overwritten or lost.
-/

namespace ViewBinding

/-! ## Runs of rounds -/

namespace Session

section

variable {m : Type → Type} [Monad m]

/-- Runs rounds one after the other. -/
def runRounds (s : Session) (store : Store m) : List Round → m (Session × List Outcome)
  | [] => return (s, [])
  | round :: rest => do
    let (s, o) ← s.runRound store round
    let (s, os) ← runRounds s store rest
    return (s, o :: os)

variable [LawfulMonad m]

theorem runRounds_append (s : Session) (store : Store m) (before after : List Round) :
    s.runRounds store (before ++ after) = do
      let (s, os) ← s.runRounds store before
      let (s, os') ← s.runRounds store after
      return (s, os ++ os') := by
  induction before generalizing s with
  | nil => simp [runRounds]
  | cons round rest ih => simp [runRounds, ih]

end

/-- One more round goes on from where the rounds before it have come. -/
theorem runRounds_concat (s : Session) (before : List Round) (round : Round) (st : MemoryStore) :
    let prior := s.runRounds MemoryStore.store before st
    let next := prior.1.1.runRound MemoryStore.store round prior.2
    s.runRounds MemoryStore.store (before ++ [round]) st =
      ((next.1.1, prior.1.2 ++ [next.1.2]), next.2) :=
  congrFun (s.runRounds_append MemoryStore.store before [round]) st

/-- The outcome of a round stands in those of the run behind the outcomes of the rounds before. -/
theorem exists_outcomes_append (s : Session) (before after : List Round) (st : MemoryStore) :
    ∃ later, (s.runRounds MemoryStore.store (before ++ after) st).1.2 =
      (s.runRounds MemoryStore.store before st).1.2 ++ later :=
  ⟨_, congrArg (·.1.2) (congrFun (s.runRounds_append MemoryStore.store before after) st)⟩

end Session

/-! ## Files -/

/-- The file holds the source: under its name, for its class and with its text. -/
structure SourceFile.Holds (f : SourceFile) (g : Generated) : Prop where
  name : f.name = g.qualifiedName
  origin : f.origin.name = g.owner
  contents : f.contents = g.contents

/-- What a round does to a store. Everything that was in it stays, and there is one more file for
each generated source, where there was none. -/
structure MemoryStore.Extends (st : MemoryStore) (sources : List Generated) (st' : MemoryStore) :
    Prop where
  kept : ∀ name f, st.files.get? name = some f → st'.files.get? name = some f
  added : ∀ g ∈ sources, st.files.get? g.qualifiedName = none ∧
    ∃ f, st'.files.get? g.qualifiedName = some f ∧ f.Holds g
  only : ∀ name f, st'.files.get? name = some f →
    st.files.get? name = some f ∨ ∃ g ∈ sources, g.qualifiedName = name ∧ f.Holds g

/-- The sources that a store has taken since it was empty: no two of them have one name, there is
one file for each, and the names are legal and not among those to be refused. -/
structure MemoryStore.Inventory (refused : List String) (sources : List Generated)
    (st : MemoryStore) : Prop where
  distinct : (sources.map (·.qualifiedName)).Nodup
  size : st.files.size = sources.length
  legal : ∀ name ∈ st.files.keys, Java.IsQualifiedName name ∧ name ∉ refused

namespace MemoryStore

variable {st st' : MemoryStore} {files : List SourceFile} {sources : List Generated}

theorem names_eq_of_holds (hf : List.Forall₂ SourceFile.Holds files sources) :
    files.map (·.name) = sources.map (·.qualifiedName) := by
  induction hf with
  | nil => rfl
  | cons hhead _ ih => rw [List.map_cons, List.map_cons, ih, hhead.name]

/-- A store that has taken the files of some sources is extended by them. -/
theorem Grown.extends (h : st.Grown files st')
    (hf : List.Forall₂ SourceFile.Holds files sources) : st.Extends sources st' where
  kept name f hget := (h.get? name f).mpr (.inl hget)
  added g hg := by
    obtain ⟨f, hfile, hholds⟩ := exists_mem_of_forall₂ hf hg
    rw [← hholds.name]
    exact ⟨h.absent f hfile, f, (h.get? f.name f).mpr (.inr ⟨hfile, rfl⟩), hholds⟩
  only name f hget := by
    rcases (h.get? name f).mp hget with hold | ⟨hfile, hname⟩
    · exact .inl hold
    · obtain ⟨g, hg, hholds⟩ := exists_mem_of_forall₂ hf.flip hfile
      exact .inr ⟨g, hg, hholds.name ▸ hname, hholds⟩

/-- From an empty store on, the files are those of the sources. -/
theorem Grown.inventory (h : st.Grown files st') (hempty : st.files = .empty)
    (hf : List.Forall₂ SourceFile.Holds files sources) : st'.Inventory st.refused sources where
  distinct := names_eq_of_holds hf ▸ h.distinct
  size := by
    have hlength := (h.keys_perm hempty).length_eq
    rw [List.length_map, hf.length_eq, SortedMap.keys, List.length_map] at hlength
    exact hlength
  legal := by
    intro name hname
    obtain ⟨f, hfile, rfl⟩ := List.mem_map.mp ((h.keys_perm hempty).mem_iff.mp hname)
    exact ⟨h.legal f hfile, h.allowed f hfile⟩

end MemoryStore

/-! ## Rounds -/

namespace Session

/-- The files that fitting verdicts hand to a store hold the sources of the verdicts. -/
theorem forall₂_generatedFiles {s : Session} {is : List Injector}
    {verdicts : List (HostClass × Verdict)} (hv : List.Forall₂ (Settled s) is verdicts) :
    List.Forall₂ SourceFile.Holds (generatedFiles verdicts)
      (verdicts.filterMap (·.2.generated?)) := by
  induction hv with
  | nil => exact .nil
  | @cons i v _ rest hhead _ ih =>
    obtain ⟨hhost, hfits⟩ := hhead
    unfold generatedFiles at ih ⊢
    cases hverdict : v.2 with
    | generated source =>
      rw [hverdict] at hfits
      have howner := Injector.owner_of_generate hfits.2
      simp only [List.filterMap_cons, hverdict, Verdict.generated?_generated, Option.map_some]
      exact .cons ⟨rfl, by rw [howner, ← hhost]; rfl, rfl⟩ ih
    | skipped conflicts =>
      simpa only [List.filterMap_cons, hverdict, Verdict.generated?_skipped, Option.map_none]
    | failed e =>
      simpa only [List.filterMap_cons, hverdict, Verdict.generated?_failed, Option.map_none]

/-- One round: the store takes the files of its sources. -/
theorem grown_runRound (s : Session) (round : Round) (st : MemoryStore) :
    ∃ files, st.Grown files (s.runRound MemoryStore.store round st).2 ∧
      List.Forall₂ SourceFile.Holds files
        (s.runRound MemoryStore.store round st).1.2.generated := by
  let is := (round.gatherInto s.roster.clear).roster.drain.1
  have hsettled := (s.returns_settleAll MemoryStore.store is).of_state st
  exact ⟨_, s.grown_settleAll is st, forall₂_generatedFiles hsettled⟩

/-- Any rounds: the store takes the files of all their sources. -/
theorem grown_runRounds (s : Session) (rounds : List Round) (st : MemoryStore) :
    ∃ files, st.Grown files (s.runRounds MemoryStore.store rounds st).2 ∧
      List.Forall₂ SourceFile.Holds files
        ((s.runRounds MemoryStore.store rounds st).1.2.flatMap (·.generated)) := by
  induction rounds generalizing s st with
  | nil => exact ⟨[], st.grown_refl, .nil⟩
  | cons round rest ih =>
    obtain ⟨files, hgrown, hfiles⟩ := s.grown_runRound round st
    obtain ⟨files', hgrown', hfiles'⟩ := ih (s.runRound MemoryStore.store round st).1.1
      (s.runRound MemoryStore.store round st).2
    exact ⟨files ++ files', hgrown.trans hgrown', List.rel_append hfiles hfiles'⟩

/-- No file is overwritten or lost, whatever rounds a session runs on a store in memory that starts
empty. The store holds one file for each source generated so far, under a name that is legal, not
refused and generated only once. After each of the rounds no injector is pending, and the round has
extended the store by its own sources. -/
theorem runRounds_keeps (s : Session) (refused : List String) (rounds : List Round) :
    let start : MemoryStore := { refused }
    let run := s.runRounds MemoryStore.store rounds start
    run.2.Inventory refused (run.1.2.flatMap (·.generated)) ∧
    ∀ before round after, rounds = before ++ round :: after →
      let prior := s.runRounds MemoryStore.store before start
      let next := prior.1.1.runRound MemoryStore.store round prior.2
      s.runRounds MemoryStore.store (before ++ [round]) start =
        ((next.1.1, prior.1.2 ++ [next.1.2]), next.2) ∧
      (∃ later, run.1.2 = prior.1.2 ++ next.1.2 :: later) ∧
      next.1.1.roster = .empty ∧ prior.2.Extends next.1.2.generated next.2 := by
  intro start run
  constructor
  · obtain ⟨files, hgrown, hfiles⟩ := s.grown_runRounds rounds start
    exact hgrown.inventory rfl hfiles
  · intro before round after hrounds prior next
    have hnext := s.runRounds_concat before round start
    obtain ⟨later, hlater⟩ := s.exists_outcomes_append (before ++ [round]) after start
    obtain ⟨files, hgrown, hfiles⟩ := prior.1.1.grown_runRound round prior.2
    refine ⟨hnext, ⟨later, ?_⟩, rfl, hgrown.extends hfiles⟩
    rw [hnext, List.append_assoc, List.append_assoc, List.singleton_append, ← hrounds] at hlater
    exact hlater

/-- A class that comes again in a later round fails there, and its file stays as it was. -/
theorem runRounds_keeps_mixedRounds :
    let s : Session := { settings := {}, version := {} }
    let refused := ["Gone$$ViewInjector"]
    let run := s.runRounds MemoryStore.store [mixedRound, mixedRound, .closing] { refused }
    run.2.Inventory refused (run.1.2.flatMap (·.generated)) ∧
    run.1.2.map (·.generated.map (·.owner)) = [["Main"], [], []] ∧
    run.1.2.map (·.failed) = [["Gone"], ["Gone", "Main"], []] ∧
    run.2.files.keys = ["Main$$ViewInjector"] :=
  ⟨(runRounds_keeps _ _ _).1, by decide +kernel, by decide +kernel, by decide +kernel⟩

end Session

end ViewBinding
