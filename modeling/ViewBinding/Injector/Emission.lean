import ViewBinding.Injector.Source
import ViewBinding.Store.Basic

/-!
# Emission of an injector

An injector is emitted by handing its source to a store, under the qualified name of the injector
and with its host class as origin.

* `emit_of_generate_error`: without a source the store is not asked.
-/

namespace ViewBinding

/-- Why an injector was not emitted. -/
inductive EmissionError where
  | source (owner : String) (cause : SourceError)
  | store (owner : String) (cause : StoreError)
  deriving DecidableEq, Repr

/-- The wording of an error. -/
def EmissionError.message : EmissionError → String
  | .source owner cause => s!"could not generate injector for `{owner}`: {cause.message}"
  | .store owner cause => s!"could not write injector for `{owner}`: {cause.message}"

/-- A generated source, with the number of its bindings. -/
structure Generated where
  owner : String
  qualifiedName : String
  bindings : Nat
  contents : String
  deriving DecidableEq, Repr

namespace Injector

/-- The generated source, not yet handed to a store. -/
def generate (i : Injector) (settings : Settings) (version : SourceVersion) :
    Except EmissionError Generated :=
  match i.source? settings version with
  | .error cause => .error (.source i.host.name cause)
  | .ok contents => .ok {
      owner := i.host.name
      qualifiedName := i.host.injectorQualifiedName settings.classSuffix
      bindings := i.size
      contents }

/-- Generates the source and hands it to a store. -/
def emit {m : Type → Type} [Monad m] (i : Injector) (settings : Settings)
    (version : SourceVersion) (store : Store m) : m (Except EmissionError Generated) := do
  match i.generate settings version with
  | .error e => return .error e
  | .ok source =>
    match ← store.create ⟨source.qualifiedName, i.host, source.contents⟩ with
    | .error cause => return .error (.store i.host.name cause)
    | .ok () => return .ok source

theorem emit_of_generate_error {m : Type → Type} [Monad m] {i : Injector} {settings : Settings}
    {version : SourceVersion} {store : Store m} {e : EmissionError}
    (h : i.generate settings version = .error e) :
    i.emit settings version store = pure (.error e) := by
  simp [emit, h]

end Injector

end ViewBinding
