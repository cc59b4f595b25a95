import ViewBinding.Proofs.Injector.Structure
import ViewBinding.Proofs.Manifest.Emission

/-!
# A valid manifest cannot forge structure

Names and types are free texts of a manifest, and so are the settings that stand in a source. Those
that validation accepts hold no delimiter out of place and end no statement. So each source of a dry
build is one class, properly nested, with the statements of its bindings and no others.

* `Manifest.legal_statements`: the statements of an injector hold legal names and types.
* `Injector.sum_ends_statements`: how many statements of Java they take.
* `Manifest.structure_of_valid`: every source of a dry build.
-/

namespace ViewBinding

open Text

/-- The runtime package of valid settings is a legal name. -/
theorem Settings.isQualifiedName_of_check {settings : Settings} (h : settings.check = .ok ()) :
    Java.IsQualifiedName settings.runtimePackage := by
  rw [check, Problems.result_eq_ok_iff, problems, List.filterMap_eq_nil_iff] at h
  have hpackage : settings.packageProblem? = none :=
    h _ (List.mem_cons_of_mem _ List.mem_cons_self)
  unfold packageProblem? at hpackage
  split at hpackage
  · next hname => exact Java.checkQualifiedName_eq_ok_iff.mp hname
  · cases hpackage

/-- The statements of an injector, by the bindings they stand for. -/
theorem Injector.sum_ends_statements (i : Injector) (version : SourceVersion) :
    (i.statements.map (·.ends version)).sum =
      i.fields.bound.size + (if version.hasLambdas then 1 else 2) * i.handlers.bound.size := by
  have hfields : (i.statementsOf .bindView).map (·.ends version) =
      List.replicate i.fields.bound.size 1 := by
    rw [statementsOf, List.map_map]
    exact List.map_const' ..
  have hhandlers : (i.statementsOf .onClick).map (·.ends version) =
      List.replicate i.handlers.bound.size (if version.hasLambdas then 1 else 2) := by
    rw [statementsOf, List.map_map]
    exact List.map_const' ..
  rw [(i.statements_perm.map _).sum_nat, List.map_append, List.sum_append_nat, hfields, hhandlers,
    List.sum_replicate_nat, List.sum_replicate_nat, Nat.mul_one, Nat.mul_comm]

namespace Manifest

variable {m : Manifest} {settings : Settings} {c : ClassEntry} {i : Injector}

/-- An accepted declaration of a valid class makes a statement of legal names and types. -/
theorem legal_ofClaim (hc : c.Valid) {d : Declaration} (hd : d ∈ c.declarations)
    {kind : AnnotationKind} {place : Placed} (hplace : d.placeAs kind = .ok place) (id : ViewId) :
    (Statement.ofClaim kind d id).Legal := by
  obtain ⟨e, he, rfl⟩ := List.mem_map.mp hd
  have hmember := hc.members e he
  have htarget : e.kind = kind.target := Declaration.place_target hplace
  cases kind with
  | bindView =>
    -- Validation has checked the type of a field; that of a parameter is left to its placement.
    have htype := hmember.type
    rw [MemberEntry.HasType, htarget] at htype
    refine ⟨hmember.name, ?_⟩
    split at htype
    · cases htype
    · exact htype.resolve_left fun hvoid => by cases hvoid.1
  | onClick =>
    obtain ⟨-, -, -, -, hparameter, -⟩ := Declaration.placeAs_eq_ok_iff.mp hplace
    refine ⟨hmember.name, fun type htype => ?_⟩
    exact (Java.isClassType_iff.mp (Placement.checkParameter_eq_ok_iff.mp hparameter type htype)).2

/-- The statements of an injector hold legal names and types. -/
theorem legal_statements (hm : m.Valid) (hc : c ∈ m.classes) (hi : m.roster.get? c.name = some i) :
    ∀ statement ∈ i.statements, statement.Legal := by
  have hrec := m.reflects_roster.records c.name i hi
  have hof : ∀ kind, ∀ statement ∈ i.statementsOf kind, statement.Legal := by
    intro kind statement hstatement
    obtain ⟨⟨id, d⟩, he, rfl⟩ := List.mem_map.mp hstatement
    -- A bound declaration is the first claimant of its view, so it was accepted.
    obtain ⟨rest, hclaims⟩ := (hrec kind).get?_some (SortedMap.mem_entries_iff.mp he)
    have hclaimant : d ∈ claimantsIn m.round.sightings kind c.name id := by
      have hlist : claimantsIn m.round.sightings kind c.name id = d :: rest := hclaims
      rw [hlist]
      exact List.mem_cons_self
    obtain ⟨hd, hdc⟩ := (mem_claimantsIn_class hm hc).mp hclaimant
    obtain ⟨⟨place, hplace⟩, -⟩ := Declaration.claims_iff.mp hdc
    exact legal_ofClaim (hm.classes c hc) hd hplace id
  intro statement hstatement
  rcases List.mem_append.mp (i.statements_perm.mem_iff.mp hstatement) with hmem | hmem
  · exact hof .bindView statement hmem
  · exact hof .onClick statement hmem

/-- So does the frame of an injector with a legal name. -/
theorem legalFrame (hm : m.Valid) (hs : settings.check = .ok ()) (hc : c ∈ m.classes)
    (hid : Java.IsIdentifier (c.host.injectorName settings.classSuffix)) :
    LegalFrame settings c.host := by
  have hvalid := hm.classes c hc
  have hname : Java.IsQualifiedName c.host.name := c.host_name ▸ hvalid.name
  exact ⟨hname, (hvalid.liesInPackage.isQualifiedName hname).1, hid,
    Settings.isQualifiedName_of_check hs⟩

/-- The indentation of any settings is neutral. -/
theorem neutral_indentUnit (settings : Settings) :
    Neutral (Injector.indentUnit settings).toList := by
  refine neutral_of_plain fun c hc => ?_
  rw [Injector.indentUnit, String.toList_ofList] at hc
  rw [List.eq_of_mem_replicate hc]
  decide

/-- The source of a class of the manifest: one class, properly nested, in which each binding ends
the statements that it takes, and nothing else does but the package declaration. -/
theorem structure_of_generate (hm : m.Valid) (hs : settings.check = .ok ()) (hc : c ∈ m.classes)
    (hi : m.roster.get? c.name = some i) {version : SourceVersion} {g : Generated}
    (hg : i.generate settings version = .ok g) :
    IsClassSource g.contents ∧ g.contents.toList.count ';' =
      (if c.host.package.isEmpty then 0 else 1) + i.fields.bound.size +
        (if version.hasLambdas then 1 else 2) * i.handlers.bound.size := by
  have hhost := host_eq hm hc hi
  obtain ⟨-, hid⟩ := (i.exists_generate_iff settings version).mp ⟨g, hg⟩
  rw [hhost] at hid
  have hframe := legalFrame hm hs hc hid
  have hunit := neutral_indentUnit settings
  have hlegal := legal_statements hm hc hi
  obtain ⟨-, -, hcontents⟩ := Injector.generate_eq_ok hg
  rw [hcontents, hhost]
  refine ⟨isClassSource_injectorLines hframe version hunit hlegal, ?_⟩
  rw [(reads_injectorLines hframe version hunit hlegal).ends, i.sum_ends_statements version,
    ← Nat.add_assoc]
  rfl

/-- Each source of a dry build is that of the injector of one of the classes. -/
theorem exists_generate_of_mem {o : Outcome} (ho : o ∈ (m.report settings).rounds) {g : Generated}
    (hg : g ∈ o.generated) :
    ∃ c ∈ m.classes, ∃ i, c.name = g.owner ∧ m.roster.get? c.name = some i ∧
      i.generate settings m.version = .ok g := by
  -- Only the first round has verdicts, and each source in it is the one of its injector.
  have hverdict : g ∈ (m.verdicts settings).filterMap (·.2.generated?) := by
    rcases List.mem_cons.mp ho with rfl | ho
    · exact hg
    · rw [List.mem_singleton.mp ho] at hg
      cases hg
  obtain ⟨v, hv, hsource⟩ := List.mem_filterMap.mp hverdict
  obtain ⟨i, hi, -, hfits⟩ := exists_mem_of_forall₂ (m.settled_verdicts settings) hv
  obtain ⟨c, hc, hget, hhost⟩ := exists_class_of_mem_values hi
  have hgenerate : i.generate settings m.version = .ok g := by
    cases hv : v.2 with
    | generated source =>
      rw [hv] at hfits hsource
      cases hsource
      exact hfits.2
    | skipped conflicts => rw [hv] at hsource; cases hsource
    | failed e => rw [hv] at hsource; cases hsource
  refine ⟨c, hc, i, ?_, hget, hgenerate⟩
  rw [Injector.owner_of_generate hgenerate, hhost, c.host_name]

/-- Every source in a dry build of a valid manifest is one class, properly nested. It has one end of
a statement for the package, if there is one, one for each bound field, and one for each handled
view, or two where listeners cannot be lambda expressions. -/
theorem structure_of_valid (hm : m.check = .ok ()) (hs : settings.check = .ok ()) :
    ∃ r : Report, checkManifest m settings = .ok r ∧ ∀ o ∈ r.rounds, ∀ g ∈ o.generated,
      IsClassSource g.contents ∧ ∃ c ∈ m.classes, ∃ i, c.name = g.owner ∧
        m.roster.get? c.name = some i ∧ g.contents.toList.count ';' =
          (if c.host.package.isEmpty then 0 else 1) + i.fields.bound.size +
            (if m.version.release.toNat < 8 then 2 else 1) * i.handlers.bound.size := by
  refine ⟨m.report settings, checkManifest_eq hs, fun o ho g hg => ?_⟩
  obtain ⟨c, hc, i, howner, hget, hgenerate⟩ := exists_generate_of_mem ho hg
  obtain ⟨hclass, hcount⟩ := structure_of_generate (check_eq_ok_iff.mp hm) hs hc hget hgenerate
  refine ⟨hclass, c, hc, i, howner, hget, ?_⟩
  rw [hcount, SourceVersion.ite_hasLambdas]

/-- A class with a field of an array type and a method that handles two views. -/
def gridManifest : Manifest where
  sourceVersion := some 7
  classes := [
    { name := "app.Grid"
      members := [
        { kind := .field, name := "cells", type := "app.Cell [] []", bindView := some 1 },
        { kind := .method, name := "tap", type := "void", onClick := some [2, 3] }] }]

theorem structure_of_valid_gridManifest :
    gridManifest.check = .ok () ∧ ({} : Settings).check = .ok () ∧
    ∃ r : Report, checkManifest gridManifest {} = .ok r ∧
      r.rounds.map (·.generated.map (·.owner)) = [["app.Grid"], []] ∧
      ∀ o ∈ r.rounds, ∀ g ∈ o.generated,
        IsClassSource g.contents ∧ g.contents.toList.count ';' = 1 + 1 + 2 * 2 := by
  have hcheck : gridManifest.check = .ok () := by decide +kernel
  have hbound : (gridManifest.roster.get? "app.Grid").map
      (fun i => (i.fields.bound.size, i.handlers.bound.size)) = some (1, 2) := by decide +kernel
  obtain ⟨r, hr, hstructure⟩ := structure_of_valid hcheck Settings.check_default
  have hreport : r = gridManifest.report {} :=
    Except.ok.inj (hr.symm.trans (checkManifest_eq Settings.check_default))
  have howners : r.rounds.map (·.generated.map (·.owner)) = [["app.Grid"], []] := by
    rw [hreport]
    decide +kernel
  refine ⟨hcheck, Settings.check_default, r, hr, howners, fun o ho g hg => ?_⟩
  obtain ⟨hclass, c, hc, i, -, hget, hcount⟩ := hstructure o ho g hg
  obtain rfl := List.mem_singleton.mp hc
  have hsizes : (i.fields.bound.size, i.handlers.bound.size) = (1, 2) := by
    rw [hget] at hbound
    exact Option.some.inj hbound
  obtain ⟨hfields, hhandlers⟩ := Prod.mk.inj hsizes
  have hversion : gridManifest.version.release.toNat < 8 := by decide
  refine ⟨hclass, ?_⟩
  rw [hcount, hfields, hhandlers, if_pos hversion]
  rfl

end Manifest

end ViewBinding
