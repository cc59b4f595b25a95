import Mathlib.Data.List.Nodup
import Mathlib.Data.List.TakeWhile
import ViewBinding.Proofs.Manifest.Validity

/-!
# What validation complains about

Every place of a manifest has one rule to keep: the listing of a class, its name and its package,
and the name, the type, the single parameters and the symbol of each member. Validation walks over
the places and complains once about each that breaks its rule, with the route to it in front.

* `Manifest.places`, `Manifest.Place.Broken`, `Manifest.Place.wording`: the places in the order of
  the manifest, when the rule of one is broken, and the complaint about it.
* `MemberEntry.messages_problems`, `ClassEntry.messages_problems`, `Manifest.messages_problems`:
  what validation finds in a member, in a class and in all classes.
* `Manifest.check_complaints`: which manifests are accepted, and what is said about the others.
-/

namespace ViewBinding

open Java Text

/-! ## Entries and those before them -/

/-- An entry of a list, with the entries that are listed before it. -/
structure Listed (α : Type) where
  earlier : List α
  entry : α

namespace Listed

variable {α : Type}

/-- The entries of a list that goes on after earlier ones. -/
def after (earlier : List α) : List α → List (Listed α)
  | [] => []
  | a :: rest => ⟨earlier, a⟩ :: after (earlier ++ [a]) rest

/-- The entries of a list. -/
def all (xs : List α) : List (Listed α) :=
  after [] xs

theorem mem_after {earlier xs : List α} {l : Listed α} :
    l ∈ after earlier xs ↔
      ∃ start rest, l.earlier = earlier ++ start ∧ xs = start ++ l.entry :: rest := by
  induction xs generalizing earlier with
  | nil => simp [after]
  | cons a xs ih =>
    rw [after, List.mem_cons, ih]
    constructor
    · rintro (rfl | ⟨start, rest, hearlier, rfl⟩)
      · exact ⟨[], xs, by simp, rfl⟩
      · exact ⟨a :: start, rest, by simp [hearlier], rfl⟩
    · rintro ⟨start, rest, hearlier, hxs⟩
      cases start with
      | nil =>
        obtain ⟨rfl, rfl⟩ : a = l.entry ∧ xs = rest := by simpa using hxs
        rw [List.append_nil] at hearlier
        exact .inl (hearlier ▸ rfl)
      | cons b start =>
        obtain ⟨rfl, htail⟩ : a = b ∧ xs = start ++ l.entry :: rest := by simpa using hxs
        exact .inr ⟨start, rest, by simp [hearlier], htail⟩

/-- No entry is met twice, as more and more entries come before. -/
theorem nodup_after (earlier xs : List α) : (after earlier xs).Nodup := by
  induction xs generalizing earlier with
  | nil => exact List.nodup_nil
  | cons a xs ih =>
    refine List.nodup_cons.mpr ⟨fun hmem => ?_, ih _⟩
    obtain ⟨start, rest, hearlier, -⟩ := mem_after.mp hmem
    have hlength := congrArg List.length hearlier
    simp only [List.length_append, List.length_singleton] at hlength
    omega

theorem nodup_all (xs : List α) : (all xs).Nodup :=
  nodup_after [] xs

/-- The items made for each entry differ if every item tells the entry that it is for. -/
theorem nodup_flatMap_all {β : Type} {items : Listed α → List β} (owner : β → Option (Listed α))
    (howner : ∀ l, ∀ item ∈ items l, owner item = some l) (hitems : ∀ l, (items l).Nodup)
    (xs : List α) : ((all xs).flatMap items).Nodup := by
  refine List.nodup_flatMap.mpr ⟨fun l _ => hitems l, (nodup_all xs).imp ?_⟩
  intro l k hne item hl hk
  exact hne (Option.some.inj ((howner l item hl).symm.trans (howner k item hk)))

end Listed

/-! ## Complaints -/

/-- The complaints about those of some places that break their rule. -/
def complaints {π : Type} (Broken : π → Prop) [DecidablePred Broken] (wording : π → String)
    (places : List π) : List String :=
  (places.filter (Broken ·)).map wording

section

variable {π ρ : Type} {Broken : π → Prop} [DecidablePred Broken] {wording : π → String}

theorem complaints_singleton {place : π} :
    complaints Broken wording [place] = if Broken place then [wording place] else [] := by
  by_cases h : Broken place <;> simp [complaints, h]

theorem complaints_eq_nil_iff {places : List π} :
    complaints Broken wording places = [] ↔ ∀ place ∈ places, ¬ Broken place := by
  simp [complaints]

theorem complaints_append {places more : List π} :
    complaints Broken wording (places ++ more) =
      complaints Broken wording places ++ complaints Broken wording more := by
  simp [complaints]

theorem complaints_map {f : ρ → π} {places : List ρ} :
    complaints Broken wording (places.map f) =
      complaints (fun place => Broken (f place)) (fun place => wording (f place)) places := by
  simp [complaints, List.filter_map, Function.comp_def]

/-- A complaint made on the condition that breaks the rule of a place. -/
theorem Problems.messages_add_of_broken {p : Problems} {message : String} {place : π}
    {condition : Bool} (h : Broken place ↔ condition = true) (hmessage : wording place = message) :
    (if condition then p.add message else p).messages =
      p.messages ++ complaints Broken wording [place] := by
  rw [complaints_singleton, hmessage]
  by_cases hc : condition = true
  · rw [if_pos hc, if_pos (h.mpr hc)]
    rfl
  · rw [if_neg hc, if_neg (h.not.mpr hc), List.append_nil]

/-- A part is complained about as it is by itself, with the route to it in front. -/
theorem Problems.messages_addChild_complaints {child : Problems} {places : List π} (p : Problems)
    (route : String) (h : child.messages = complaints Broken wording places) :
    (p.addChild route child).messages =
      p.messages ++ complaints Broken (fun place => s!"{route}: {wording place}") places := by
  rw [addChild, h, complaints, complaints, List.map_map]
  rfl

end

/-- The wording of the fault that a check finds, if it finds one. -/
def faultText {ε : Type} (wording : ε → String) : Except ε Unit → String
  | .ok () => ""
  | .error fault => wording fault

/-- One complaint for a check that fails. -/
theorem Problems.messages_addResult {ε : Type} {p : Problems} {wording : ε → String}
    {r : Except ε Unit} {kept : Prop} [Decidable kept] (h : r = .ok () ↔ kept) :
    (p.addResult wording r).messages =
      p.messages ++ if ¬ kept then [faultText wording r] else [] := by
  cases r with
  | ok => simp [addResult, h.mp rfl]
  | error fault =>
    have hnot : ¬ kept := fun hk => by cases h.mpr hk
    simp [addResult, messages_add, faultText, hnot]

/-! ## Types -/

/-- A primitive or a legal name, within blanks and before any number of `[]`. -/
def Java.IsType (type : String) : Prop :=
  isPrimitive (elementType type) = true ∨ IsQualifiedName (elementType type)

instance (type : String) : Decidable (IsType type) :=
  inferInstanceAs (Decidable (_ ∨ _))

theorem Java.not_isType_of_isBlankText {type : String} (h : isBlankText type = true) :
    ¬ IsType type := by
  have htrim : trim type.toList = [] := by
    have hstart : trimStart type.toList = [] :=
      List.dropWhile_eq_nil_iff.mpr (List.all_eq_true.mp h)
    rw [trim, hstart]
    rfl
  have helement : elementType type = "" := by
    rw [elementType, htrim, List.reverse_nil, dropBracketsReversed]
    · rfl
    · simp
  rw [IsType, helement]
  decide

/-- The complaint about a type that is none. -/
def typeText (missing type : String) : String :=
  if isBlankText type then missing else faultText TypeFault.message (checkType type)

/-! ## Members -/

namespace MemberEntry

/-- The places of a member: its name, its type, each parameter, and its symbol in the class. -/
inductive Place where
  | name
  | type
  | param (p : Listed String)
  | repetition

/-- The places of the member, but for the repetition of its symbol. -/
def ownPlaces (m : MemberEntry) : List Place :=
  [.name, .type] ++ (Listed.all m.params).map .param

/-- The places of the member. -/
def places (m : MemberEntry) : List Place :=
  m.ownPlaces ++ [.repetition]

theorem nodup_places (m : MemberEntry) : m.places.Nodup := by
  have hparams : ((Listed.all m.params).map Place.param).Nodup :=
    (Listed.nodup_all m.params).map fun _ _ h => by cases h; rfl
  simp [places, ownPlaces, List.nodup_append, hparams]

/-- A declared type. A constructor may leave it out, and a method may have `void`. -/
def IsTyped (m : MemberEntry) : Prop :=
  IsType m.type ∨ m.kind = .constructor ∧ isBlankText m.type = true ∨
    m.kind = .method ∧ m.type = "void"

instance (m : MemberEntry) : Decidable m.IsTyped :=
  inferInstanceAs (Decidable (_ ∨ _))

/-- The symbols of those members that belong to the class itself. -/
def symbols (host : HostClass) (ms : List MemberEntry) : List String :=
  (ms.filter (·.isClassMember)).map (ClassEntry.symbolOf host)

namespace Place

/-- The place breaks its rule. -/
def Broken (host : HostClass) (m : Listed MemberEntry) : Place → Prop
  | name => ¬ IsIdentifier m.entry.name
  | type => ¬ m.entry.IsTyped
  | param p => ¬ IsType p.entry
  | repetition => m.entry.isClassMember = true ∧
      ClassEntry.symbolOf host m.entry ∈ symbols host m.earlier

instance (host : HostClass) (m : Listed MemberEntry) : DecidablePred (Broken host m)
  | name => inferInstanceAs (Decidable (¬ _))
  | type => inferInstanceAs (Decidable (¬ _))
  | param _ => inferInstanceAs (Decidable (¬ _))
  | repetition => inferInstanceAs (Decidable (_ ∧ _))

/-- The complaint about the place. -/
def wording (m : MemberEntry) : Place → String
  | name => faultText IdentifierFault.message (checkIdentifier m.name)
  | type => typeText "missing type" m.type
  | param p => typeText "empty parameter type" p.entry
  | repetition => "declared more than once"

end Place

theorem isTyped_of_isBlankText {m : MemberEntry} (h : isBlankText m.type = true) :
    m.IsTyped ↔ m.kind = .constructor := by
  have hvoid : m.type ≠ "void" := by
    intro hv
    rw [hv] at h
    revert h
    decide
  simp [IsTyped, h, hvoid, not_isType_of_isBlankText h]

theorem hasType_iff_isTyped {m : MemberEntry} : m.HasType ↔ m.IsTyped := by
  unfold HasType
  split
  · next hb => rw [isTyped_of_isBlankText hb]
  · next hb =>
    rw [checkType_eq_ok_iff, IsTyped, IsType]
    simp [hb, or_comm]

/-- A member by itself is valid if its name and its types are. -/
theorem valid_iff {m : MemberEntry} :
    m.Valid ↔ IsIdentifier m.name ∧ m.IsTyped ∧ ∀ type ∈ m.params, IsType type := by
  have hparam : ∀ type, (isBlankText type = false ∧ checkType type = .ok ()) ↔ IsType type := by
    intro type
    rw [checkType_eq_ok_iff, ← IsType, and_iff_right_iff_imp]
    intro htype
    by_contra hb
    rw [Bool.not_eq_false] at hb
    exact not_isType_of_isBlankText hb htype
  have hparams : (∀ type ∈ m.params, isBlankText type = false ∧ checkType type = .ok ()) ↔
      ∀ type ∈ m.params, IsType type := forall₂_congr fun type _ => hparam type
  constructor
  · intro h
    exact ⟨h.name, hasType_iff_isTyped.mp h.type, hparams.mp h.params⟩
  · rintro ⟨hname, htype, htypes⟩
    exact ⟨hname, hasType_iff_isTyped.mpr htype, hparams.mpr htypes⟩

variable (host : HostClass) (m : Listed MemberEntry)

theorem messages_typeProblems :
    m.entry.typeProblems.messages =
      complaints (Place.Broken host m) (Place.wording m.entry) [.type] := by
  rw [complaints_singleton]
  show _ = if ¬ m.entry.IsTyped then [typeText "missing type" m.entry.type] else []
  unfold typeProblems typeText
  -- The checks come in this order: a blank type, then `void`, then the type itself.
  by_cases hb : isBlankText m.entry.type = true
  · by_cases hk : m.entry.kind = .constructor <;>
      simp [hb, hk, isTyped_of_isBlankText hb, Problems.messages_add]
  · by_cases hv : m.entry.kind = .method ∧ m.entry.type = "void"
    · have htyped : m.entry.IsTyped := .inr (.inr hv)
      rw [if_neg hb, if_pos (by simpa using hv), if_neg (not_not.mpr htyped)]
    · have hchecked : checkType m.entry.type = .ok () ↔ m.entry.IsTyped := by
        rw [checkType_eq_ok_iff, IsTyped, IsType]
        simp [hb, hv]
      rw [if_neg hb, if_neg (by simpa using hv), if_neg hb, Problems.messages_addResult hchecked]
      rfl

theorem messages_addParamProblems (p : Problems) (type : Listed String) :
    (addParamProblems p type.entry).messages = p.messages ++
      complaints (Place.Broken host m) (Place.wording m.entry) [.param type] := by
  rw [complaints_singleton]
  show _ = p.messages ++ if ¬ IsType type.entry then
    [typeText "empty parameter type" type.entry] else []
  unfold addParamProblems typeText
  by_cases hb : isBlankText type.entry = true
  · simp [hb, not_isType_of_isBlankText hb, Problems.messages_add]
  · rw [if_neg hb, if_neg hb, Problems.messages_addResult checkType_eq_ok_iff]
    rfl

theorem messages_foldl_addParamProblems (p : Problems) (earlier params : List String) :
    (params.foldl addParamProblems p).messages = p.messages ++
      complaints (Place.Broken host m) (Place.wording m.entry)
        ((Listed.after earlier params).map .param) := by
  -- The parameters that are done are the earlier ones of the next.
  induction params generalizing p earlier with
  | nil => simp [Listed.after, complaints]
  | cons type rest ih =>
    rw [List.foldl_cons, ih _ (earlier ++ [type]),
      messages_addParamProblems host m p ⟨earlier, type⟩, List.append_assoc, ← complaints_append]
    rfl

/-- What is wrong with a member by itself. -/
theorem messages_problems :
    m.entry.problems.messages =
      complaints (Place.Broken host m) (Place.wording m.entry) m.entry.ownPlaces := by
  have hname : (({} : Problems).addResult IdentifierFault.message
      (checkIdentifier m.entry.name)).messages =
      complaints (Place.Broken host m) (Place.wording m.entry) [.name] := by
    rw [Problems.messages_addResult checkIdentifier_eq_ok_iff, complaints_singleton]
    rfl
  rw [problems, messages_foldl_addParamProblems host m _ [], hname, messages_typeProblems host m,
    ← complaints_append, ← complaints_append]
  rfl

end MemberEntry

/-! ## Classes -/

namespace ClassEntry

/-- A package that is given is a legal name, and the name of the class goes on from it after a
dot. -/
def IsInside (c : ClassEntry) : Prop :=
  ∀ package ∈ c.package, package ≠ "" →
    IsQualifiedName package ∧ package.toList ++ ['.'] <+: c.name.toList

instance (c : ClassEntry) : Decidable c.IsInside :=
  inferInstanceAs (Decidable (∀ _ ∈ _, _))

/-- The places of a class: its name, its package, and those of its members. -/
inductive Place where
  | name
  | package
  | member (m : Listed MemberEntry) (place : MemberEntry.Place)

/-- The places of members that are listed after others. -/
def memberPlaces (earlier ms : List MemberEntry) : List Place :=
  (Listed.after earlier ms).flatMap fun m => m.entry.places.map (.member m)

theorem memberPlaces_cons (earlier : List MemberEntry) (m : MemberEntry)
    (rest : List MemberEntry) :
    memberPlaces earlier (m :: rest) =
      m.places.map (.member ⟨earlier, m⟩) ++ memberPlaces (earlier ++ [m]) rest := rfl

/-- The places of the class. -/
def places (c : ClassEntry) : List Place :=
  [.name, .package] ++ memberPlaces [] c.members

/-- The member that the place belongs to. -/
def Place.member? : Place → Option (Listed MemberEntry)
  | name | package => none
  | member m _ => some m

theorem nodup_places (c : ClassEntry) : c.places.Nodup := by
  have hmembers : (memberPlaces [] c.members).Nodup := by
    refine Listed.nodup_flatMap_all Place.member? ?_ ?_ c.members
    · simp [Place.member?]
    · exact fun m => m.entry.nodup_places.map fun _ _ h => by cases h; rfl
  refine List.nodup_cons.mpr ⟨?_, List.nodup_cons.mpr ⟨?_, hmembers⟩⟩ <;> simp [memberPlaces]

namespace Place

/-- The place breaks its rule. -/
def Broken (c : ClassEntry) : Place → Prop
  | name => ¬ IsQualifiedName c.name
  | package => ¬ c.IsInside
  | member m place => place.Broken c.host m

instance (c : ClassEntry) : DecidablePred (Broken c)
  | name => inferInstanceAs (Decidable (¬ _))
  | package => inferInstanceAs (Decidable (¬ _))
  | member m place => inferInstanceAs (Decidable (place.Broken c.host m))

/-- The complaint about the place. -/
def wording (c : ClassEntry) : Place → String
  | name => faultText NameFault.message (checkQualifiedName c.name)
  | package =>
    let package := c.package.getD ""
    if IsQualifiedName package then s!"name is not inside package `{package}`"
    else s!"package: {faultText NameFault.message (checkQualifiedName package)}"
  | member m place => s!"{m.entry.route}: {place.wording m.entry}"

end Place

variable (c : ClassEntry)

theorem toList_packageProblem? :
    c.packageProblem?.toList = complaints (Place.Broken c) (Place.wording c) [.package] := by
  rw [complaints_singleton]
  show _ = if ¬ c.IsInside then [Place.wording c .package] else []
  -- A package that is left out or empty asks for nothing; any other has to be legal before the name
  -- is compared with it.
  cases hp : c.package with
  | none =>
    have hinside : c.IsInside := by simp [IsInside, hp]
    simp [packageProblem?, hp, hinside]
  | some package =>
    by_cases hempty : package = ""
    · have hinside : c.IsInside := by simp [IsInside, hp, hempty]
      simp [packageProblem?, hp, hempty, hinside]
    · have hinside : c.IsInside ↔
          IsQualifiedName package ∧ package.toList ++ ['.'] <+: c.name.toList := by
        simp [IsInside, hp, hempty]
      have hne : package.isEmpty = false := by simpa using hempty
      unfold packageProblem? Place.wording
      simp only [hp, hne, Option.getD_some]
      cases hcheck : checkQualifiedName package with
      | error fault =>
        have hnot : ¬ IsQualifiedName package := by
          rw [← checkQualifiedName_eq_ok_iff, hcheck]
          nofun
        simp [hinside, hnot, faultText]
      | ok =>
        have hname : IsQualifiedName package := checkQualifiedName_eq_ok_iff.mp hcheck
        by_cases hpre : package.toList ++ ['.'] <+: c.name.toList <;>
          simp [hinside, hname, hpre, isSome_dropPrefix?_iff]

/-- A class is valid if its name, its package and its members are, and no symbol is given twice. -/
theorem valid_iff :
    c.Valid ↔ IsQualifiedName c.name ∧ c.IsInside ∧ (∀ m ∈ c.members, m.Valid) ∧
      (MemberEntry.symbols c.host c.members).Nodup := by
  have hpackage : c.packageProblem? = none ↔ c.IsInside := by
    rw [← Option.toList_eq_nil_iff, toList_packageProblem?, complaints_eq_nil_iff,
      List.forall_mem_singleton]
    exact not_not
  constructor
  · intro h
    exact ⟨h.name, hpackage.mp h.package, h.members, h.symbols⟩
  · rintro ⟨hname, hinside, hmembers, hsymbols⟩
    exact ⟨hname, hpackage.mpr hinside, hmembers, hsymbols⟩

/-- What is wrong with a member of a class, given the symbols seen before it. -/
def problemsAfter (host : HostClass) (seen : List String) (m : MemberEntry) : Problems :=
  if m.isClassMember && seen.contains (symbolOf host m) then
    m.problems.add "declared more than once"
  else m.problems

theorem memberProblems_cons (host : HostClass) (p : Problems) (seen : List String) (m : MemberEntry)
    (rest : List MemberEntry) :
    memberProblems host p seen (m :: rest) =
      memberProblems host (p.addChild m.route (problemsAfter host seen m))
        (if m.isClassMember then symbolOf host m :: seen else seen) rest := by
  rw [memberProblems, problemsAfter]
  cases m.isClassMember <;> rfl

theorem messages_problemsAfter (host : HostClass) (seen : List String) (m : Listed MemberEntry)
    (hseen : ∀ symbol, symbol ∈ seen ↔ symbol ∈ MemberEntry.symbols host m.earlier) :
    (problemsAfter host seen m.entry).messages =
      complaints (MemberEntry.Place.Broken host m) (MemberEntry.Place.wording m.entry)
        m.entry.places := by
  -- The symbols seen are those of the members before, so a repetition is one in the list.
  have hrepeated : MemberEntry.Place.Broken host m .repetition ↔
      (m.entry.isClassMember && seen.contains (symbolOf host m.entry)) = true := by
    rw [Bool.and_eq_true, List.contains_iff_mem, hseen]
    rfl
  rw [MemberEntry.places, complaints_append, ← MemberEntry.messages_problems]
  exact Problems.messages_add_of_broken hrepeated rfl

/-- Members are complained about one after the other, if the symbols seen are those of the members
before them. -/
theorem messages_memberProblems (p : Problems) (seen : List String) (earlier ms : List MemberEntry)
    (hseen : ∀ symbol, symbol ∈ seen ↔ symbol ∈ MemberEntry.symbols c.host earlier) :
    (memberProblems c.host p seen ms).messages = p.messages ++
      complaints (Place.Broken c) (Place.wording c) (memberPlaces earlier ms) := by
  -- The invariant is that `seen` holds the symbols of the earlier members of the class itself.
  induction ms generalizing p seen earlier with
  | nil => simp [memberProblems, memberPlaces, Listed.after, complaints]
  | cons m rest ih =>
    have hnext : ∀ symbol,
        symbol ∈ (if m.isClassMember then symbolOf c.host m :: seen else seen) ↔
          symbol ∈ MemberEntry.symbols c.host (earlier ++ [m]) := by
      intro symbol
      cases hm : m.isClassMember <;>
        simp [MemberEntry.symbols, hm, hseen, List.filter_append, or_comm]
    have hown := Problems.messages_addChild_complaints p m.route
      (messages_problemsAfter c.host seen ⟨earlier, m⟩ hseen)
    rw [memberProblems_cons, ih _ _ _ hnext, hown, List.append_assoc, memberPlaces_cons,
      complaints_append, complaints_map]
    rfl

/-- What is wrong with a class. -/
theorem messages_problems :
    c.problems.messages = complaints (Place.Broken c) (Place.wording c) c.places := by
  have hname : (({} : Problems).addResult NameFault.message (checkQualifiedName c.name)).messages =
      complaints (Place.Broken c) (Place.wording c) [.name] := by
    rw [Problems.messages_addResult checkQualifiedName_eq_ok_iff, complaints_singleton]
    rfl
  have hplaces : complaints (Place.Broken c) (Place.wording c) c.places =
      complaints (Place.Broken c) (Place.wording c) [.name] ++ c.packageProblem?.toList ++
        complaints (Place.Broken c) (Place.wording c) (memberPlaces [] c.members) := by
    rw [toList_packageProblem?, ← complaints_append, ← complaints_append]
    rfl
  rw [problems, messages_memberProblems c _ _ [] c.members (by simp [MemberEntry.symbols]), hplaces,
    ← hname]
  cases c.packageProblem? with
  | none => rw [Option.toList_none, List.append_nil]
  | some message => rfl

end ClassEntry

/-! ## Manifests -/

namespace Manifest

/-- The places of a manifest: the listing of each class, and what is inside it. -/
inductive Place where
  | listing (c : Listed ClassEntry)
  | inside (c : Listed ClassEntry) (place : ClassEntry.Place)

/-- The places of classes that are listed after others. -/
def classPlaces (earlier cs : List ClassEntry) : List Place :=
  (Listed.after earlier cs).flatMap fun c => .listing c :: c.entry.places.map (.inside c)

theorem classPlaces_cons (earlier : List ClassEntry) (c : ClassEntry) (rest : List ClassEntry) :
    classPlaces earlier (c :: rest) =
      [.listing ⟨earlier, c⟩] ++
        (c.places.map (.inside ⟨earlier, c⟩) ++ classPlaces (earlier ++ [c]) rest) := rfl

/-- The places of the manifest, in its order. -/
def places (m : Manifest) : List Place :=
  classPlaces [] m.classes

/-- The class that the place belongs to. -/
def Place.owner : Place → Listed ClassEntry
  | listing c | inside c _ => c

theorem nodup_places (m : Manifest) : m.places.Nodup := by
  refine Listed.nodup_flatMap_all (fun place => some place.owner) ?_ ?_ m.classes
  · simp [Place.owner]
  · intro c
    refine List.nodup_cons.mpr ⟨by simp, ?_⟩
    exact c.entry.nodup_places.map fun _ _ h => by cases h; rfl

namespace Place

/-- The place breaks its rule. -/
def Broken : Place → Prop
  | listing c => c.entry.name ∈ c.earlier.map (·.name)
  | inside c place => place.Broken c.entry

instance : DecidablePred Broken
  | listing c => inferInstanceAs (Decidable (c.entry.name ∈ c.earlier.map (·.name)))
  | inside c place => inferInstanceAs (Decidable (place.Broken c.entry))

/-- The complaint about the place. -/
def wording : Place → String
  | listing c => s!"class `{c.entry.name}` is listed more than once"
  | inside c place => s!"{c.entry.route}: {place.wording c.entry}"

end Place

/-- Classes are complained about one after the other, if the names seen are those of the classes
before them. -/
theorem messages_classProblems (p : Problems) (seen : List String) (earlier cs : List ClassEntry)
    (hseen : ∀ name, name ∈ seen ↔ name ∈ earlier.map (·.name)) :
    (classProblems p seen cs).messages =
      p.messages ++ complaints Place.Broken Place.wording (classPlaces earlier cs) := by
  induction cs generalizing p seen earlier with
  | nil => simp [classProblems, classPlaces, Listed.after, complaints]
  | cons c rest ih =>
    have hnext : ∀ name, name ∈ c.name :: seen ↔ name ∈ (earlier ++ [c]).map (·.name) := by
      intro name
      simp [hseen, or_comm]
    have hlisted : (if seen.contains c.name then
        p.add s!"class `{c.name}` is listed more than once" else p).messages =
        p.messages ++ complaints Place.Broken Place.wording [.listing ⟨earlier, c⟩] := by
      have hrepeated : Place.Broken (.listing ⟨earlier, c⟩) ↔ seen.contains c.name = true := by
        rw [List.contains_iff_mem, hseen]
        rfl
      exact Problems.messages_add_of_broken hrepeated rfl
    have hinside := fun p => Problems.messages_addChild_complaints p c.route c.messages_problems
    rw [classProblems, ih _ _ _ hnext, hinside, hlisted, classPlaces_cons, complaints_append,
      complaints_append, complaints_map, List.append_assoc, List.append_assoc]
    rfl

/-- What is wrong with a manifest. -/
theorem messages_problems (m : Manifest) :
    m.problems.messages = complaints Place.Broken Place.wording m.places := by
  rw [problems, messages_classProblems _ _ [] _ (by simp)]
  rfl

/-- Every name and every type is legal, each class lies in its package, and neither the names of
classes nor the symbols of a class are given twice. -/
structure Lawful (m : Manifest) : Prop where
  classes : (m.classes.map (·.name)).Nodup
  classNames : ∀ c ∈ m.classes, IsQualifiedName c.name
  packages : ∀ c ∈ m.classes, ∀ package ∈ c.package, package ≠ "" →
    IsQualifiedName package ∧ package.toList ++ ['.'] <+: c.name.toList
  memberNames : ∀ c ∈ m.classes, ∀ e ∈ c.members, IsIdentifier e.name
  memberTypes : ∀ c ∈ m.classes, ∀ e ∈ c.members, IsType e.type ∨
    e.kind = .constructor ∧ isBlankText e.type = true ∨ e.kind = .method ∧ e.type = "void"
  params : ∀ c ∈ m.classes, ∀ e ∈ c.members, ∀ type ∈ e.params, IsType type
  symbols : ∀ c ∈ m.classes, (MemberEntry.symbols c.host c.members).Nodup

variable {m : Manifest}

theorem lawful_iff_valid : m.Lawful ↔ m.Valid := by
  constructor
  · intro h
    refine ⟨h.classes, fun c hc => c.valid_iff.mpr ?_⟩
    refine ⟨h.classNames c hc, h.packages c hc, fun e he => ?_, h.symbols c hc⟩
    exact MemberEntry.valid_iff.mpr
      ⟨h.memberNames c hc e he, h.memberTypes c hc e he, h.params c hc e he⟩
  · intro h
    have hclass := fun c hc => (ClassEntry.valid_iff c).mp (h.classes c hc)
    have hmember := fun c hc e he => MemberEntry.valid_iff.mp ((hclass c hc).2.2.1 e he)
    exact {
      classes := h.names
      classNames := fun c hc => (hclass c hc).1
      packages := fun c hc => (hclass c hc).2.1
      memberNames := fun c hc e he => (hmember c hc e he).1
      memberTypes := fun c hc e he => (hmember c hc e he).2.1
      params := fun c hc e he => (hmember c hc e he).2.2
      symbols := fun c hc => (hclass c hc).2.2.2 }

/-- Validation accepts the lawful manifests. About any other it complains once for each place that
breaks its rule, and in the order of the places, no two of which are the same. -/
theorem check_complaints (m : Manifest) :
    (m.check = .ok () ↔ m.Lawful) ∧
    (¬ m.Lawful → m.check = .error ⟨complaints Place.Broken Place.wording m.places⟩) ∧
    m.places.Nodup := by
  have hok : m.check = .ok () ↔ m.Lawful := check_eq_ok_iff.trans lawful_iff_valid.symm
  refine ⟨hok, fun hnot => ?_, m.nodup_places⟩
  have hfound : m.problems.isEmpty = false := by
    by_contra hempty
    rw [Bool.not_eq_false] at hempty
    refine hnot (hok.mp ?_)
    rw [check, Problems.result, if_pos hempty]
  rw [check, Problems.result, hfound, if_neg Bool.false_ne_true, ← messages_problems]

example : ({ classes := [
      { name := "app.Main", package := some "lib", members := [
        { kind := .field, name := "title", type := "Label" },
        { kind := .field, name := "title", type := "", params := ["int", " "] }] },
      { name := "app.Main" }] } : Manifest).problems.messages =
    ["class `app.Main`: name is not inside package `lib`",
      "class `app.Main`: field `title`: missing type",
      "class `app.Main`: field `title`: empty parameter type",
      "class `app.Main`: field `title`: declared more than once",
      "class `app.Main` is listed more than once"] := by
  decide +kernel

end Manifest

end ViewBinding
