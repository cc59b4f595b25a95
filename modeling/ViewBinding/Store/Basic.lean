import ViewBinding.HostClass

/-!
# Stores of sources

A store takes each generated source once, under the qualified name of its class. What it does with
the source is its own affair, so a store is given by its one operation, in any monad.

* `StoreError.message`: the wording of each refusal.
-/

namespace ViewBinding

/-- A generated source with the class that it was generated for. -/
structure SourceFile where
  name : String
  origin : HostClass
  contents : String
  deriving DecidableEq, Repr

/-- Why a store did not take a source. `reason` is the operating system's. -/
inductive StoreError where
  | alreadyExists (name : String)
  | invalidName (name : String) (fault : Java.NameFault)
  | rejected (name : String)
  | writing (path reason : String)
  deriving DecidableEq, Repr

/-- The wording of a refusal. -/
def StoreError.message : StoreError → String
  | alreadyExists name => s!"source file '{name}' was already created"
  | invalidName name fault => s!"invalid source file name '{name}': {fault.message}"
  | rejected name => s!"output location rejected for '{name}'"
  | writing path reason => s!"failed to write '{path}': {reason}"

/-- A store of sources in a monad. -/
structure Store (m : Type → Type) where
  create : SourceFile → m (Except StoreError Unit)

end ViewBinding
