import Mathlib.Data.List.Forall2
import ViewBinding.Session

/-!
# Verdicts on injectors

Settling an injector hands its source to a store that can do anything. Whatever the store answers,
the verdict fits the injector: one with conflicts is skipped with all of them, and any other is
either generated, with its own source, or failed.

* `Returns`: a property of all values that a computation in some monad returns.
* `Session.returns_settleAll`: one fitting verdict for each injector, in order.
* `Session.returns_runRound`: what a round returns, given fitting verdicts.
-/

namespace ViewBinding

/-- Each member of the second of two related lists is related to a member of the first. -/
theorem exists_mem_of_forall₂ {α β : Type} {R : α → β → Prop} {xs : List α} {ys : List β}
    (h : List.Forall₂ R xs ys) {y : β} (hy : y ∈ ys) : ∃ x ∈ xs, R x y := by
  induction h with
  | nil => cases hy
  | cons hhead _ ih =>
    rcases List.mem_cons.mp hy with rfl | hy
    · exact ⟨_, List.mem_cons_self, hhead⟩
    · obtain ⟨x, hx, hr⟩ := ih hy
      exact ⟨x, List.mem_cons_of_mem _ hx, hr⟩

/-! ## Values returned in any monad -/

/-- Every value that the computation returns has the property: it is the same computation with
values of the subtype. -/
def Returns {m : Type → Type} [Functor m] {α : Type} (p : α → Prop) (x : m α) : Prop :=
  ∃ y : m { a // p a }, Subtype.val <$> y = x

section

variable {m : Type → Type} [Monad m] [LawfulMonad m] {α β : Type} {p : α → Prop} {q : β → Prop}

theorem returns_pure {a : α} (h : p a) : Returns p (pure a : m α) :=
  ⟨pure ⟨a, h⟩, map_pure _ _⟩

theorem returns_of_forall {x : m α} (h : ∀ a, p a) : Returns p x :=
  ⟨(fun a => ⟨a, h a⟩) <$> x, by rw [← comp_map]; exact id_map x⟩

theorem Returns.mono {q : α → Prop} {x : m α} (hx : Returns p x) (h : ∀ a, p a → q a) :
    Returns q x := by
  obtain ⟨y, rfl⟩ := hx
  exact ⟨(fun a => ⟨a.1, h a.1 a.2⟩) <$> y, by rw [← comp_map]; rfl⟩

theorem Returns.bind {x : m α} {f : α → m β} (hx : Returns p x)
    (hf : ∀ a, p a → Returns q (f a)) : Returns q (x >>= f) := by
  obtain ⟨y, rfl⟩ := hx
  refine ⟨y >>= fun a => (hf a.1 a.2).choose, ?_⟩
  rw [map_bind, bind_map_left]
  exact congrArg (y >>= ·) (funext fun a => (hf a.1 a.2).choose_spec)

end

/-- In a state monad, the property holds from every state. -/
theorem Returns.of_state {σ α : Type} {p : α → Prop} {x : StateM σ α} (h : Returns p x) (s : σ) :
    p (x s).1 := by
  obtain ⟨y, rfl⟩ := h
  exact (y s).1.2

/-! ## Settling -/

namespace Verdict

variable {source : Generated} {conflicts : List Conflict} {e : EmissionError}

@[simp] theorem generated?_generated : (generated source).generated? = some source := rfl

@[simp] theorem generated?_skipped : (skipped conflicts).generated? = none := rfl

@[simp] theorem generated?_failed : (failed e).generated? = none := rfl

@[simp] theorem isSkipped_generated : (generated source).isSkipped = false := rfl

@[simp] theorem isSkipped_skipped : (skipped conflicts).isSkipped = true := rfl

@[simp] theorem isSkipped_failed : (failed e).isSkipped = false := rfl

@[simp] theorem isFailed_generated : (generated source).isFailed = false := rfl

@[simp] theorem isFailed_skipped : (skipped conflicts).isFailed = false := rfl

@[simp] theorem isFailed_failed : (failed e).isFailed = true := rfl

end Verdict

/-- The verdict that an injector can get. -/
def Verdict.Fits (settings : Settings) (version : SourceVersion) (i : Injector) : Verdict → Prop
  | .generated source => i.conflicts = [] ∧ i.generate settings version = .ok source
  | .skipped conflicts => i.conflicts ≠ [] ∧ conflicts = i.conflicts
  | .failed _ => i.conflicts = []

/-- A verdict on an injector, with the class it is about. -/
def Settled (s : Session) (i : Injector) (v : HostClass × Verdict) : Prop :=
  v.1 = i.host ∧ v.2.Fits s.settings s.version i

namespace Injector

theorem owner_of_generate {i : Injector} {settings : Settings} {version : SourceVersion}
    {source : Generated} (h : i.generate settings version = .ok source) :
    source.owner = i.host.name := by
  unfold generate at h
  split at h
  · cases h
  · cases h
    rfl

theorem returns_emit {m : Type → Type} [Monad m] [LawfulMonad m] (i : Injector)
    (settings : Settings) (version : SourceVersion) (store : Store m) :
    Returns (fun r => ∀ source, r = .ok source → i.generate settings version = .ok source)
      (i.emit settings version store) := by
  cases hg : i.generate settings version with
  | error e =>
    rw [emit_of_generate_error hg]
    exact returns_pure fun source h => by cases h
  | ok generated =>
    simp only [emit, hg]
    refine (returns_of_forall (p := fun _ => True) fun _ => trivial).bind fun answer _ => ?_
    cases answer with
    | error cause => exact returns_pure fun source h => by cases h
    | ok u => exact returns_pure fun source h => h

end Injector

namespace Session

variable {m : Type → Type} [Monad m] [LawfulMonad m]

theorem returns_settle (s : Session) (store : Store m) (i : Injector) :
    Returns (Settled s i) (s.settle store i) := by
  unfold settle
  cases hc : i.hasConflicts with
  | true =>
    have hne : i.conflicts ≠ [] := fun h => by
      rw [Injector.hasConflicts_eq_false_iff.mpr h] at hc
      cases hc
    exact returns_pure ⟨rfl, hne, rfl⟩
  | false =>
    have hnil := Injector.hasConflicts_eq_false_iff.mp hc
    refine (i.returns_emit s.settings s.version store).bind fun r hr => ?_
    cases r with
    | error e => exact returns_pure ⟨rfl, hnil⟩
    | ok source => exact returns_pure ⟨rfl, hnil, hr source rfl⟩

/-- One fitting verdict for each injector, in order. -/
theorem returns_settleAll (s : Session) (store : Store m) (is : List Injector) :
    Returns (List.Forall₂ (Settled s) is) (s.settleAll store is) := by
  induction is with
  | nil => exact returns_pure .nil
  | cons i rest ih =>
    refine (s.returns_settle store i).bind fun v hv => ih.bind fun vs hvs => ?_
    exact returns_pure (.cons hv hvs)

/-- A round returns the session and the outcome that belong to fitting verdicts on the injectors it
has gathered. -/
theorem returns_runRound (s : Session) (store : Store m) (round : Round) :
    Returns (fun r => ∃ verdicts,
        List.Forall₂ (Settled s) (round.gatherInto .empty).roster.values verdicts ∧
        r = (s.afterRound round (round.gatherInto .empty) verdicts,
          .ofVerdicts (s.rounds + 1) (round.gatherInto .empty).tally verdicts))
      (s.runRound store round) :=
  (s.returns_settleAll store _).bind fun verdicts hv => returns_pure ⟨verdicts, hv, rfl⟩

end Session

end ViewBinding
