import ViewBinding.Java.QualifiedName
import ViewBinding.Problems

/-!
# Settings of the generator

How injectors are named and laid out, and the package of the classes they rely on.

* `check_default`: the settings are valid where none are given.
-/

namespace ViewBinding

/-- The settings, each with its default. -/
structure Settings where
  classSuffix : String := "$$ViewInjector"
  runtimePackage : String := "viewinject.runtime"
  indent : Nat := 4
  header : Bool := true
  deriving DecidableEq, Repr

namespace Settings

/-- The suffix of a class name is not empty and keeps the name an identifier. -/
def suffixProblem? (s : Settings) : Option String :=
  if s.classSuffix.isEmpty then some "class_suffix must not be empty"
  else if !s.classSuffix.toList.all Java.isIdentifierPart then
    some s!"class_suffix `{s.classSuffix}` contains characters not allowed in a class name"
  else none

/-- The package is a qualified name. -/
def packageProblem? (s : Settings) : Option String :=
  match Java.checkQualifiedName s.runtimePackage with
  | .ok () => none
  | .error fault => some s!"runtime_package: {fault.message}"

/-- A level is indented by one to eight spaces. -/
def indentProblem? (s : Settings) : Option String :=
  if 1 ≤ s.indent && s.indent ≤ 8 then none
  else some s!"indent must be between 1 and 8, got {s.indent}"

/-- Everything that is wrong with the settings. -/
def problems (s : Settings) : Problems :=
  ⟨[s.suffixProblem?, s.packageProblem?, s.indentProblem?].filterMap id⟩

/-- Accepts valid settings. -/
def check (s : Settings) : Except Problems Unit :=
  s.problems.result

/-- The wording for settings that are not valid. -/
def invalidMessage (p : Problems) : String :=
  s!"invalid generator config: {p.display}"

/-- The qualified name of a class of the runtime package. -/
def runtimeType (s : Settings) (name : String) : String :=
  s.runtimePackage ++ "." ++ name

theorem check_default : ({} : Settings).check = .ok () :=
  Problems.result_eq_ok_iff.mpr (by decide +kernel)

end Settings

end ViewBinding
