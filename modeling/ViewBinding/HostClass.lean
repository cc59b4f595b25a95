import ViewBinding.Java.QualifiedName

/-!
# Host classes

A host class is a class whose members are bound to views. Its injector lives in the same package
and is named after it.

* `HostClass.binaryName_of_package_eq_empty`: outside any package the binary name is the whole
  name with `$` for each dot.
-/

namespace ViewBinding

open Text

/-- A class by its qualified name, with its package and the file it was read from. -/
structure HostClass where
  name : String
  package : String
  source : Option String := none
  deriving DecidableEq, Repr

namespace HostClass

/-- The class of that name, in the package that the naming convention gives to it. -/
def ofName (name : String) : HostClass :=
  { name, package := Java.packageOf name }

/-- The last segment of the name. -/
def simpleName (host : HostClass) : String :=
  String.ofList (((segments '.' host.name.toList).getLast?).getD [])

/-- The text with `$` in place of each dot. -/
def dollars (cs : List Char) : List Char :=
  cs.map fun c => if c = '.' then '$' else c

/-- The name relative to the package, nesting written with `$`; the simple name where the name
does not lie in the package. -/
def binaryName (host : HostClass) : String :=
  if host.package.isEmpty then String.ofList (dollars host.name.toList)
  else
    match dropPrefix? (host.package.toList ++ ['.']) host.name.toList with
    | some rest => String.ofList (dollars rest)
    -- A package that a manifest states need not be a beginning of the name.
    | none => host.simpleName

/-- The simple name of the injector of the class. -/
def injectorName (host : HostClass) (suffix : String) : String :=
  host.binaryName ++ suffix

/-- The qualified name of the injector of the class. -/
def injectorQualifiedName (host : HostClass) (suffix : String) : String :=
  if host.package.isEmpty then host.injectorName suffix
  else host.package ++ "." ++ host.injectorName suffix

theorem binaryName_of_package_eq_empty {host : HostClass} (h : host.package = "") :
    host.binaryName.toList = dollars host.name.toList := by
  simp [binaryName, h]

end HostClass

end ViewBinding
