import ViewBinding.HostClass
import ViewBinding.Proofs.Java.Names
import ViewBinding.Proofs.Java.Packages

/-!
# The names of injectors

An injector is named after its class: the name of the class below its package, with `$` for each
dot, and the suffix. Such a name can be illegal in one way only, as a reserved word, and two classes
get one name only if the name of one of them holds a `$`.

* `LiesInPackage`: the package of a class is a beginning of its name, cut at a dot, or empty.
* `LiesInPackage.isIdentifier_injectorName_iff`: the simple name is legal unless it is reserved.
* `LiesInPackage.isQualifiedName_injectorQualifiedName`: with it, the qualified name is legal.
* `LiesInPackage.name_eq`: a class is known by the qualified name of its injector.
-/

namespace ViewBinding.HostClass

open Java Text

/-- The package is empty, or the name goes on after it with a dot. -/
def LiesInPackage (host : HostClass) : Prop :=
  host.package = "" ∨ ∃ rest, host.name.toList = host.package.toList ++ '.' :: rest

/-- What stands in front of a name in the package. -/
def packagePrefix (host : HostClass) : List Char :=
  if host.package.isEmpty then [] else host.package.toList ++ ['.']

/-- A class without a given package lies in the one that the naming convention gives to it. -/
theorem liesInPackage_ofName (name : String) : (ofName name).LiesInPackage :=
  packageOf_cases name

variable {host host' : HostClass} {suffix : String}

theorem packagePrefix_of_eq (h : host.package = "") : host.packagePrefix = [] := by
  simp [packagePrefix, h]

theorem packagePrefix_of_ne (h : host.package ≠ "") :
    host.packagePrefix = host.package.toList ++ ['.'] := by
  simp [packagePrefix, h]

theorem toList_injectorQualifiedName :
    (host.injectorQualifiedName suffix).toList =
      host.packagePrefix ++ (host.injectorName suffix).toList := by
  unfold injectorQualifiedName packagePrefix
  split <;> simp

/-- The name of a class in its package is the prefix and a rest, and the binary name is made of the
rest alone. -/
theorem LiesInPackage.binaryName_eq (h : host.LiesInPackage) :
    ∃ rest, host.name.toList = host.packagePrefix ++ rest ∧
      host.binaryName.toList = dollars rest := by
  by_cases hp : host.package = ""
  · refine ⟨host.name.toList, ?_, binaryName_of_package_eq_empty hp⟩
    rw [packagePrefix_of_eq hp, List.nil_append]
  · obtain ⟨rest, hrest⟩ := h.resolve_left hp
    have hname : host.name.toList = host.packagePrefix ++ rest := by
      rw [packagePrefix_of_ne hp, hrest, List.append_assoc, List.singleton_append]
    have hdrop : dropPrefix? (host.package.toList ++ ['.']) host.name.toList = some rest :=
      dropPrefix?_eq_some_iff.mpr (by rw [hname, packagePrefix_of_ne hp])
    refine ⟨rest, hname, ?_⟩
    simp [binaryName, hp, hdrop]

/-! ## Legal names -/

/-- Of a legal name the package and the rest are legal. -/
theorem LiesInPackage.isQualifiedName (h : host.LiesInPackage) (hn : IsQualifiedName host.name) :
    (host.package = "" ∨ IsQualifiedName host.package) ∧
      ∀ rest, host.name.toList = host.packagePrefix ++ rest →
        IsQualifiedName (String.ofList rest) := by
  by_cases hp : host.package = ""
  · refine ⟨.inl hp, fun rest hrest => ?_⟩
    rw [packagePrefix_of_eq hp, List.nil_append] at hrest
    rwa [← hrest, String.ofList_toList]
  · obtain ⟨rest, hrest⟩ := h.resolve_left hp
    have hcut : IsQualifiedName (String.ofList (host.package.toList ++ '.' :: rest)) := by
      rwa [← hrest, String.ofList_toList]
    obtain ⟨hpackage, hlegal⟩ := isQualifiedName_append_dot.mp hcut
    rw [String.ofList_toList] at hpackage
    refine ⟨.inr hpackage, fun rest' hrest' => ?_⟩
    have hsame : rest' = rest := by
      rw [packagePrefix_of_ne hp, hrest] at hrest'
      simpa using hrest'.symm
    rwa [hsame]

/-- With `$` for its dots, a legal name has the shape of an identifier. -/
theorem hasIdentifierShape_dollars {cs more : List Char}
    (h : IsQualifiedName (String.ofList cs)) (hm : ∀ c ∈ more, isIdentifierPart c = true) :
    hasIdentifierShape (dollars cs ++ more) = true := by
  refine hasIdentifierShape_iff.mpr ⟨?_, fun c hc => ?_⟩
  · obtain ⟨c, hc, hstart⟩ := h.head
    rw [String.toList_ofList] at hc
    obtain ⟨tail, rfl⟩ := List.head?_eq_some_iff.mp hc
    have hdot : c ≠ '.' := by
      rintro rfl
      exact absurd (isIdentifierPart_of_start hstart) (by rw [isIdentifierPart_dot]; decide)
    exact ⟨c, by simp [dollars, hdot], hstart⟩
  · rcases List.mem_append.mp hc with hc | hc
    · obtain ⟨d, hd, rfl⟩ := List.mem_map.mp hc
      split
      · exact isIdentifierPart_dollar
      · next hdot =>
        exact (h.isIdentifierPart (by rwa [String.toList_ofList])).resolve_left hdot
    · exact hm c hc

section

variable (h : host.LiesInPackage) (hn : IsQualifiedName host.name)
  (hs : ∀ c ∈ suffix.toList, isIdentifierPart c = true)

include h hn hs

/-- The simple name of an injector always has the shape of an identifier. -/
theorem LiesInPackage.hasIdentifierShape_injectorName :
    hasIdentifierShape (host.injectorName suffix).toList = true := by
  obtain ⟨rest, hrest, hbinary⟩ := h.binaryName_eq
  rw [injectorName, String.toList_append, hbinary]
  exact hasIdentifierShape_dollars ((h.isQualifiedName hn).2 rest hrest) hs

/-- So it is legal unless it is a reserved word. -/
theorem LiesInPackage.isIdentifier_injectorName_iff :
    IsIdentifier (host.injectorName suffix) ↔ isReserved (host.injectorName suffix) = false :=
  and_iff_right (h.hasIdentifierShape_injectorName hn hs)

omit hs in
/-- The qualified name of an injector with a legal simple name is legal. -/
theorem LiesInPackage.isQualifiedName_injectorQualifiedName
    (hid : IsIdentifier (host.injectorName suffix)) :
    IsQualifiedName (host.injectorQualifiedName suffix) := by
  have hlist : host.injectorQualifiedName suffix =
      String.ofList (host.packagePrefix ++ (host.injectorName suffix).toList) := by
    rw [← toList_injectorQualifiedName, String.ofList_toList]
  rw [hlist]
  by_cases hp : host.package = ""
  · rw [packagePrefix_of_eq hp, List.nil_append, String.ofList_toList]
    exact hid.isQualifiedName
  · rw [packagePrefix_of_ne hp, List.append_assoc, List.singleton_append,
      isQualifiedName_append_dot, String.ofList_toList, String.ofList_toList]
    exact ⟨(h.isQualifiedName hn).1.resolve_left hp, hid.isQualifiedName⟩

end

/-! ## Equal names -/

/-- A simple name without dots is the last segment of the qualified name. -/
theorem getLast?_segments_injectorQualifiedName (hdot : '.' ∉ (host.injectorName suffix).toList) :
    (segments '.' (host.injectorQualifiedName suffix).toList).getLast? =
      some (host.injectorName suffix).toList := by
  rw [toList_injectorQualifiedName]
  by_cases hp : host.package = ""
  · rw [packagePrefix_of_eq hp, List.nil_append, segments_of_not_mem hdot, List.getLast?_singleton]
  · rw [packagePrefix_of_ne hp, List.append_assoc, List.singleton_append, segments_append_sep,
      segments_of_not_mem hdot, List.getLast?_concat]

/-- Injectors of legal classes with one qualified name have one simple name. -/
theorem LiesInPackage.injectorName_eq (h : host.LiesInPackage) (h' : host'.LiesInPackage)
    (hn : IsQualifiedName host.name) (hn' : IsQualifiedName host'.name)
    (hs : ∀ c ∈ suffix.toList, isIdentifierPart c = true)
    (heq : host.injectorQualifiedName suffix = host'.injectorQualifiedName suffix) :
    host.injectorName suffix = host'.injectorName suffix := by
  have hdot {host : HostClass} (h : host.LiesInPackage) (hn : IsQualifiedName host.name) :
      '.' ∉ (host.injectorName suffix).toList := fun hmem => by
    have hpart := (hasIdentifierShape_iff.mp (h.hasIdentifierShape_injectorName hn hs)).2 _ hmem
    rw [isIdentifierPart_dot] at hpart
    cases hpart
  have hlast := getLast?_segments_injectorQualifiedName (hdot h hn)
  rw [heq, getLast?_segments_injectorQualifiedName (hdot h' hn'), Option.some.injEq,
    String.toList_inj] at hlast
  exact hlast.symm

/-- `.` in place of each `$`. -/
def undollars (cs : List Char) : List Char :=
  cs.map fun c => if c = '$' then '.' else c

theorem undollars_of_not_mem {cs : List Char} (h : '$' ∉ cs) : undollars cs = cs := by
  refine (List.map_congr_left fun c hc => ?_).trans (List.map_id cs)
  have hne : c ≠ '$' := fun heq => h (heq ▸ hc)
  simp [hne]

theorem undollars_dollars {cs : List Char} (h : '$' ∉ cs) : undollars (dollars cs) = cs := by
  rw [undollars, dollars, List.map_map]
  refine (List.map_congr_left fun c hc => ?_).trans (List.map_id cs)
  have hne : c ≠ '$' := fun heq => h (heq ▸ hc)
  by_cases hdot : c = '.' <;> simp [hdot, hne]

/-- Without a `$` in it, the name of a class is the qualified name of its injector without the
suffix, read with dots. -/
theorem LiesInPackage.undollars_eq (h : host.LiesInPackage) (hd : '$' ∉ host.name.toList) :
    undollars (host.packagePrefix ++ host.binaryName.toList) = host.name.toList := by
  obtain ⟨rest, hrest, hbinary⟩ := h.binaryName_eq
  rw [hrest, List.mem_append, not_or] at hd
  rw [hrest, hbinary, undollars, List.map_append, ← undollars, ← undollars,
    undollars_of_not_mem hd.1, undollars_dollars hd.2]

/-- Classes without a `$` in their names are told apart by the qualified names of their
injectors. -/
theorem LiesInPackage.name_eq (h : host.LiesInPackage) (h' : host'.LiesInPackage)
    (hd : '$' ∉ host.name.toList) (hd' : '$' ∉ host'.name.toList)
    (heq : host.injectorQualifiedName suffix = host'.injectorQualifiedName suffix) :
    host.name = host'.name := by
  have hlist := congrArg String.toList heq
  rw [toList_injectorQualifiedName, toList_injectorQualifiedName, injectorName, injectorName,
    String.toList_append, String.toList_append, ← List.append_assoc, ← List.append_assoc,
    List.append_cancel_right_eq] at hlist
  rw [← String.toList_inj, ← h.undollars_eq hd, ← h'.undollars_eq hd', hlist]

end ViewBinding.HostClass
