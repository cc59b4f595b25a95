import ViewBinding.Proofs.Java.Types
import ViewBinding.Proofs.Manifest.Validity
import ViewBinding.Proofs.SymbolKey

/-!
# Symbols in valid manifests

A symbol is one flat text, but the names and types that validation accepts hold none of the marks
between its parts. So a symbol can be taken apart again, and as validation lets no class and no
member of a class be listed twice, no two members of a manifest share one.

* `MemberEntry.Valid.legible`: the symbols of valid members can be taken apart.
* `Manifest.Valid.symbols`: the members of a valid manifest have symbols of their own.
* `Manifest.symbolKey_identifies`: both, for manifests that validation accepts.
-/

namespace ViewBinding

open Java Text

/-- A member of a class: a field, a method or a constructor. -/
def Declaration.IsMember (d : Declaration) : Prop :=
  d.kind = .field ∨ d.kind = .method ∨ d.kind = .constructor

instance (d : Declaration) : Decidable d.IsMember :=
  inferInstanceAs (Decidable (_ ∨ _))

/-- Of the members of a class, those with a parameter list are the ones that are no fields. -/
theorem Declaration.IsMember.isCallable_iff {d : Declaration} (h : d.IsMember) :
    d.kind.isCallable = true ↔ d.kind ≠ .field := by
  rcases h with h | h | h <;> simp [h, DeclarationKind.isCallable]

namespace MemberEntry

variable {m : MemberEntry}

theorem isMember_declaration {host : HostClass} {source : Option String} :
    (m.declaration host source).IsMember ↔ m.isClassMember = true := by
  simp [Declaration.IsMember, isClassMember, declaration, or_assoc]

/-- The symbols of valid members can be taken apart. -/
theorem Valid.legible (h : m.Valid) {host : HostClass} (hhost : IsQualifiedName host.name)
    (source : Option String) : (m.declaration host source).Legible where
  owner := hhost
  name := h.name
  params type hmem := by
    obtain ⟨hblank, htype⟩ := h.params type hmem
    constructor
    · rintro rfl
      cases hblank
    · intro hcomma
      -- A type is made of identifier characters, dots, brackets and blanks, so no comma is in it.
      have hchars := mem_of_checkType htype hcomma
      revert hchars
      decide

end MemberEntry

namespace Manifest

variable {m m' : Manifest} {d e : Declaration}

theorem Valid.legible (h : m.Valid) (hd : d ∈ m.declarations) : d.Legible := by
  obtain ⟨c, hc, member, hmember, rfl⟩ := mem_declarations.mp hd
  have hclass := h.classes c hc
  exact (hclass.members member hmember).legible (by rw [ClassEntry.host_name]; exact hclass.name) _

/-- No two members of a valid manifest have one symbol. Members of one class have been compared by
validation, and members of different classes have classes of different names. -/
theorem Valid.symbols (h : m.Valid) :
    m.declarations.Pairwise fun d e => d.IsMember → e.IsMember → d.symbolKey ≠ e.symbolKey := by
  refine List.pairwise_flatMap.mpr ⟨fun c hc => ?_, ?_⟩
  · have hsymbols := (h.classes c hc).symbols
    rw [List.Nodup, List.pairwise_map, List.pairwise_filter] at hsymbols
    refine List.pairwise_map.mpr (hsymbols.imp fun {a b} hne ha hb => ?_)
    exact hne (MemberEntry.isMember_declaration.mp ha) (MemberEntry.isMember_declaration.mp hb)
  · refine (List.pairwise_map.mp h.names).imp_of_mem fun {c c'} hc hc' hne d hd e he _ _ hkey => ?_
    have hlegible := h.legible (List.mem_flatMap.mpr ⟨c, hc, hd⟩)
    have hlegible' := h.legible (List.mem_flatMap.mpr ⟨c', hc', he⟩)
    have howner := (hlegible.parts_eq hlegible' hkey).1
    obtain ⟨a, -, rfl⟩ := List.mem_map.mp hd
    obtain ⟨b, -, rfl⟩ := List.mem_map.mp he
    rw [← c.host_name, ← c'.host_name] at hne
    exact hne howner

/-- Symbols identify the members of valid manifests. Members at different places of a manifest have
different symbols. Members of any two manifests with one symbol are in classes of one name, have one
name themselves, and either both are fields or neither is and their parameter lists are the same. -/
theorem symbolKey_identifies (hm : m.check = .ok ()) (hm' : m'.check = .ok ()) :
    (∀ (i j : Nat) (d e : Declaration), m.declarations[i]? = some d →
      m.declarations[j]? = some e → i ≠ j → d.IsMember → e.IsMember →
        d.symbolKey ≠ e.symbolKey) ∧
    ∀ d ∈ m.declarations, ∀ e ∈ m'.declarations, d.IsMember → e.IsMember →
      d.symbolKey = e.symbolKey →
        (∃ host host', d.owner = some host ∧ e.owner = some host' ∧ host.name = host'.name) ∧
        d.name = e.name ∧
        (d.kind = .field ∧ e.kind = .field ∨
          d.kind ≠ .field ∧ e.kind ≠ .field ∧ d.params = e.params) := by
  have hvalid := check_eq_ok_iff.mp hm
  have hvalid' := check_eq_ok_iff.mp hm'
  constructor
  · intro i j d e hi hj hij hd he
    obtain ⟨hilt, rfl⟩ := List.getElem?_eq_some_iff.mp hi
    obtain ⟨hjlt, rfl⟩ := List.getElem?_eq_some_iff.mp hj
    have hpairs := List.pairwise_iff_getElem.mp hvalid.symbols
    rcases Nat.lt_or_gt_of_ne hij with hlt | hgt
    · exact hpairs i j hilt hjlt hlt hd he
    · exact (hpairs j i hjlt hilt hgt he hd).symm
  · intro d hd e he hdm hem hkey
    obtain ⟨howner, hname, hkind, hparams⟩ :=
      (hvalid.legible hd).parts_eq (hvalid'.legible he) hkey
    obtain ⟨c, hc, a, ha, rfl⟩ := mem_declarations.mp hd
    obtain ⟨c', hc', b, hb, rfl⟩ := mem_declarations.mp he
    refine ⟨⟨c.host, c'.host, rfl, rfl, howner⟩, hname, ?_⟩
    -- Only a callable has its parameters in its symbol, and the symbol shows whether it is one.
    by_cases hfield : (a.declaration c.host c.source).kind = .field
    · refine .inl ⟨hfield, ?_⟩
      by_contra hother
      have hno := mt hdm.isCallable_iff.mp (not_not.mpr hfield)
      exact hno (hkind.trans (hem.isCallable_iff.mpr hother))
    · have hcall := hdm.isCallable_iff.mpr hfield
      exact .inr ⟨hfield, hem.isCallable_iff.mp (hkind.symm.trans hcall), hparams hcall⟩

/-- A class with two methods of one name, whose parameter lists differ in a comma, and a
constructor. -/
def overloaded : Manifest where
  classes := [{
    name := "app.Main"
    members := [
      { kind := .method, name := "set", type := "void", params := ["int", "int []"] },
      { kind := .method, name := "set", type := "void", params := ["int", " int", "int"] },
      { kind := .constructor, name := "Main", params := ["int"] }] }]

/-- A class of that name whose method is named like the class. -/
def namedLikeClass : Manifest where
  classes := [{
    name := "app.Main", source := some "Main.java"
    members := [{ kind := .method, name := "Main", type := "void", params := ["int"] }] }]

theorem symbolKey_identifies_overloaded :
    overloaded.check = .ok () ∧ namedLikeClass.check = .ok () ∧
      ∃ d₀ d₁ d₂ e, overloaded.declarations = [d₀, d₁, d₂] ∧ namedLikeClass.declarations = [e] ∧
        d₀.symbolKey ≠ d₁.symbolKey ∧ d₂.symbolKey = e.symbolKey ∧ d₂.owner ≠ e.owner ∧
        d₂.name = e.name ∧ d₂.params = e.params := by
  have hcheck : overloaded.check = .ok () := by
    rw [check, Problems.result_eq_ok_iff]
    decide +kernel
  have hcheck' : namedLikeClass.check = .ok () := by
    rw [check, Problems.result_eq_ok_iff]
    decide +kernel
  obtain ⟨hplaces, hparts⟩ := symbolKey_identifies hcheck hcheck'
  refine ⟨hcheck, hcheck', _, _, _, _, rfl, rfl, ?_, rfl, by decide +kernel, ?_⟩
  · exact hplaces 0 1 _ _ rfl rfl (by decide) (by decide) (by decide)
  · obtain ⟨-, hname, hkinds⟩ := hparts _ (List.mem_of_getElem? (i := 2) rfl) _
      (List.mem_of_getElem? (i := 0) rfl) (by decide) (by decide) rfl
    rcases hkinds with ⟨hfield, -⟩ | ⟨-, -, hparams⟩
    · cases hfield
    · exact ⟨hname, hparams⟩

end Manifest

end ViewBinding
