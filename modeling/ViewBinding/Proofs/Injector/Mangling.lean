import ViewBinding.Proofs.Injector.Names

/-!
# Undoing the names of injectors

The qualified name of an injector is the name of its class with `$` for the dots below the package,
and a suffix. Without the suffix, and with a dot for each `$`, it is the name of the class again,
unless that name holds a `$` itself.

* `hostNameOf?`: the name of a class, read off that of its injector.
* `LiesInPackage.hostNameOf?_injectorQualifiedName`: reading it gives the class back.
* `LiesInPackage.package_eq`: injectors with one name are in one package.
* `injectorQualifiedName_undone`: how the package of a class is found, and both laws.
-/

namespace ViewBinding.HostClass

open Java Text

variable {host host' : HostClass} {suffix : String}

/-- The name of a class, read off the qualified name of its injector: without the suffix, and with a
dot for each `$`. -/
def hostNameOf? (suffix generated : String) : Option String :=
  (dropPrefix? suffix.toList.reverse generated.toList.reverse).map fun stem =>
    String.ofList (undollars stem.reverse)

theorem hostNameOf?_append (stem suffix : String) :
    hostNameOf? suffix (stem ++ suffix) = some (String.ofList (undollars stem.toList)) := by
  have hdrop : dropPrefix? suffix.toList.reverse (stem ++ suffix).toList.reverse =
      some stem.toList.reverse :=
    dropPrefix?_eq_some_iff.mpr (by rw [String.toList_append, List.reverse_append])
  rw [hostNameOf?, hdrop, Option.map_some, List.reverse_reverse]

/-- The qualified name of an injector without its suffix. -/
theorem injectorQualifiedName_eq (host : HostClass) (suffix : String) :
    host.injectorQualifiedName suffix =
      String.ofList (host.packagePrefix ++ host.binaryName.toList) ++ suffix := by
  rw [← String.toList_inj, toList_injectorQualifiedName, injectorName, String.toList_append,
    String.toList_append, String.toList_ofList, List.append_assoc]

/-- The name of a class without `$` comes back from that of its injector. -/
theorem LiesInPackage.hostNameOf?_injectorQualifiedName (h : host.LiesInPackage)
    (hd : '$' ∉ host.name.toList) (suffix : String) :
    hostNameOf? suffix (host.injectorQualifiedName suffix) = some host.name := by
  rw [injectorQualifiedName_eq, hostNameOf?_append, String.toList_ofList, h.undollars_eq hd,
    String.ofList_toList]

/-! ## Packages -/

theorem dot_not_mem_dollars (cs : List Char) : '.' ∉ dollars cs := by
  intro hmem
  obtain ⟨c, -, hc⟩ := List.mem_map.mp hmem
  split at hc
  · cases hc
  · next hdot => exact hdot hc

/-- The simple name of a class in its package has no dot in it. -/
theorem LiesInPackage.dot_not_mem_binaryName (h : host.LiesInPackage) :
    '.' ∉ host.binaryName.toList := by
  obtain ⟨rest, -, hbinary⟩ := h.binaryName_eq
  rw [hbinary]
  exact dot_not_mem_dollars rest

/-- The package stands in front of the last dot of the qualified name, so injectors with one name
are in one package. -/
theorem LiesInPackage.package_eq (h : host.LiesInPackage) (h' : host'.LiesInPackage)
    (heq : host.injectorQualifiedName suffix = host'.injectorQualifiedName suffix) :
    host.package = host'.package := by
  rw [injectorQualifiedName_eq, injectorQualifiedName_eq, String.append_left_inj,
    String.ofList_inj] at heq
  have hdot := h.dot_not_mem_binaryName
  have hdot' := h'.dot_not_mem_binaryName
  by_cases hp : host.package = "" <;> by_cases hp' : host'.package = ""
  · rw [hp, hp']
  · rw [packagePrefix_of_eq hp, packagePrefix_of_ne hp', List.nil_append] at heq
    exact absurd (by simp [heq]) hdot
  · rw [packagePrefix_of_ne hp, packagePrefix_of_eq hp', List.nil_append] at heq
    exact absurd (by simp [← heq]) hdot'
  · rw [packagePrefix_of_ne hp, packagePrefix_of_ne hp', List.append_assoc, List.append_assoc,
      List.singleton_append, List.singleton_append] at heq
    exact String.toList_inj.mp (append_sep_inj hdot hdot' heq).1

/-! ## Both directions -/

/-- The names of injectors can be undone. The package of a class is cut off at a place in its name,
and holds the segments before the first capitalised one, or all but the last; the rest of the name
becomes the binary name. From the qualified name of the injector of any class that lies in its
package, and has no `$` in its name, the name of the class is read again, so no two such classes
have injectors of one name. -/
theorem injectorQualifiedName_undone (suffix : String) :
    (∀ name, IsPackage name (packageOf name) ∧
      (∀ stop, packageEnd? 0 (segments '.' name.toList) = some stop →
        (sliceTo? stop name.toList).isSome = true) ∧
      (packageOf name = "" ∧ (ofName name).binaryName.toList = dollars name.toList ∨
        ∃ rest, name.toList = (packageOf name).toList ++ '.' :: rest ∧
          (ofName name).binaryName.toList = dollars rest)) ∧
    (∀ host : HostClass, host.LiesInPackage → '$' ∉ host.name.toList →
      hostNameOf? suffix (host.injectorQualifiedName suffix) = some host.name) ∧
    ∀ host host' : HostClass, host.LiesInPackage → host'.LiesInPackage →
      '$' ∉ host.name.toList → '$' ∉ host'.name.toList →
      host.injectorQualifiedName suffix = host'.injectorQualifiedName suffix →
        host.name = host'.name ∧ host.package = host'.package := by
  refine ⟨fun name => ⟨isPackage_packageOf name, fun stop => isSome_sliceTo?_packageEnd?, ?_⟩,
    fun host h hd => h.hostNameOf?_injectorQualifiedName hd suffix,
    fun host host' h h' hd hd' heq => ⟨h.name_eq h' hd hd' heq, h.package_eq h' heq⟩⟩
  obtain ⟨rest, hrest, hbinary⟩ := (liesInPackage_ofName name).binaryName_eq
  by_cases hp : packageOf name = ""
  · refine .inl ⟨hp, binaryName_of_package_eq_empty hp⟩
  · refine .inr ⟨rest, ?_, hbinary⟩
    rw [packagePrefix_of_ne hp, List.append_assoc, List.singleton_append] at hrest
    exact hrest

/-- A nested class, once with the package found in its name and once with that package given. -/
theorem injectorQualifiedName_undone_nested :
    let found := ofName "häfen.Ätna.Inner"
    let given : HostClass :=
      { name := "häfen.Ätna.Inner", package := "häfen", source := some "Ätna.java" }
    found.LiesInPackage ∧ given.LiesInPackage ∧ '$' ∉ found.name.toList ∧
      packageOf "häfen.Ätna.Inner" = "häfen" ∧
      found.injectorQualifiedName "$$ViewInjector" = "häfen.Ätna$Inner$$ViewInjector" ∧
      given.injectorQualifiedName "$$ViewInjector" = "häfen.Ätna$Inner$$ViewInjector" ∧
      hostNameOf? "$$ViewInjector" "häfen.Ätna$Inner$$ViewInjector" = some "häfen.Ätna.Inner" ∧
      found.package = given.package := by
  intro found given
  obtain ⟨hpackage, hread, hinj⟩ := injectorQualifiedName_undone "$$ViewInjector"
  have hfound : found.LiesInPackage := liesInPackage_ofName _
  have hgiven : given.LiesInPackage := .inr ⟨"Ätna.Inner".toList, by decide +kernel⟩
  have hdollar : '$' ∉ found.name.toList := by decide +kernel
  have hname : found.injectorQualifiedName "$$ViewInjector" = "häfen.Ätna$Inner$$ViewInjector" := by
    decide +kernel
  have hname' : given.injectorQualifiedName "$$ViewInjector" =
      "häfen.Ätna$Inner$$ViewInjector" := by
    decide +kernel
  refine ⟨hfound, hgiven, hdollar, String.toList_inj.mp ?_, hname, hname', ?_, ?_⟩
  · exact (hpackage "häfen.Ätna.Inner").1.capitalised ["häfen".toList] "Ätna".toList
      ["Inner".toList] (by decide +kernel) (by decide +kernel) (by decide +kernel)
  · rw [← hname]
    exact hread found hfound hdollar
  · exact (hinj found given hfound hgiven hdollar hdollar (hname.trans hname'.symm)).2

end ViewBinding.HostClass
