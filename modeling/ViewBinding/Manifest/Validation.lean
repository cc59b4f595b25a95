import ViewBinding.Java.TypeName
import ViewBinding.Manifest.Basic
import ViewBinding.Problems

/-!
# Validation of manifests

All names and types of a manifest are legal, no class is listed twice, and no two members of a class
are the same symbol. Every problem is reported, with the route to its place.
-/

namespace ViewBinding

namespace MemberEntry

/-- The type is written as it has to be: a constructor may leave it out, and a method may have
`void` for it. -/
def typeProblems (m : MemberEntry) : Problems :=
  if Text.isBlankText m.type then
    if m.kind = .constructor then {} else ({} : Problems).add "missing type"
  else if m.kind = .method && m.type = "void" then {}
  else ({} : Problems).addResult Java.TypeFault.message (Java.checkType m.type)

/-- The type of a parameter is a declared type. -/
def addParamProblems (p : Problems) (type : String) : Problems :=
  if Text.isBlankText type then p.add "empty parameter type"
  else p.addResult Java.TypeFault.message (Java.checkType type)

/-- The problems of the member by itself. -/
def problems (m : MemberEntry) : Problems :=
  let named := ({} : Problems).addResult Java.IdentifierFault.message (Java.checkIdentifier m.name)
  m.params.foldl addParamProblems ⟨named.messages ++ m.typeProblems.messages⟩

/-- Members of the class itself; local variables and parameters belong to a method. -/
def isClassMember (m : MemberEntry) : Bool :=
  m.kind = .field || m.kind = .method || m.kind = .constructor

/-- The route to the member inside its class. -/
def route (m : MemberEntry) : String :=
  s!"{m.kind.display} `{m.name}`"

end MemberEntry

namespace ClassEntry

/-- The package is a qualified name around the class. -/
def packageProblem? (c : ClassEntry) : Option String :=
  match c.package with
  | none => none
  | some package =>
    if package.isEmpty then none
    else
      match Java.checkQualifiedName package with
      | .error fault => some s!"package: {fault.message}"
      | .ok () =>
        if (Text.dropPrefix? (package.toList ++ ['.']) c.name.toList).isSome then none
        else some s!"name is not inside package `{package}`"

/-- The problems of members, given the symbols seen before them. -/
def memberProblems (host : HostClass) (p : Problems) (seen : List String) :
    List MemberEntry → Problems
  | [] => p
  | m :: rest =>
    let key := (m.declaration host none).symbolKey
    let own := m.problems
    if m.isClassMember then
      let own := if seen.contains key then own.add "declared more than once" else own
      memberProblems host (p.addChild m.route own) (key :: seen) rest
    else memberProblems host (p.addChild m.route own) seen rest

/-- The problems of the class. -/
def problems (c : ClassEntry) : Problems :=
  let named := ({} : Problems).addResult Java.NameFault.message (Java.checkQualifiedName c.name)
  let packaged := match c.packageProblem? with
    | some message => named.add message
    | none => named
  memberProblems c.host packaged [] c.members

/-- The route to the class. -/
def route (c : ClassEntry) : String :=
  s!"class `{c.name}`"

end ClassEntry

namespace Manifest

/-- The problems of classes, given the names seen before them. -/
def classProblems (p : Problems) (seen : List String) : List ClassEntry → Problems
  | [] => p
  | c :: rest =>
    let p := if seen.contains c.name then p.add s!"class `{c.name}` is listed more than once" else p
    classProblems (p.addChild c.route c.problems) (c.name :: seen) rest

/-- Everything that is wrong with the manifest. -/
def problems (m : Manifest) : Problems :=
  classProblems {} [] m.classes

/-- Accepts valid manifests. -/
def check (m : Manifest) : Except Problems Unit :=
  m.problems.result

end Manifest

end ViewBinding
