/-!
# Versions of Java

The version of the language that generated sources may use.

* `hasLambdas_iff`, `ite_hasLambdas`: lambda expressions came with version 8.
-/

namespace ViewBinding

/-- A version by its release number. -/
structure SourceVersion where
  release : UInt32 := 17
  deriving DecidableEq, Repr

namespace SourceVersion

/-- The version in the words of a message. -/
def display (v : SourceVersion) : String :=
  s!"RELEASE_{v.release.toNat}"

/-- Listeners can be written as lambda expressions. -/
def hasLambdas (v : SourceVersion) : Bool :=
  8 ≤ v.release

theorem hasLambdas_iff {v : SourceVersion} : v.hasLambdas = true ↔ 8 ≤ v.release.toNat := by
  simp [hasLambdas, UInt32.le_iff_toNat_le]

/-- What depends on lambda expressions depends on the number of the version. -/
theorem ite_hasLambdas {α : Type} (v : SourceVersion) (a b : α) :
    (if v.hasLambdas then a else b) = if v.release.toNat < 8 then b else a := by
  have hiff : v.hasLambdas = true ↔ ¬ v.release.toNat < 8 := by
    rw [hasLambdas_iff, Nat.not_lt]
  simp only [hiff, ite_not]

end SourceVersion

end ViewBinding
