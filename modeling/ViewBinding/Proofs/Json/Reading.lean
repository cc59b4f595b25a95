import ViewBinding.Document.Json
import ViewBinding.Json.Rendering
import ViewBinding.Proofs.Text.Cutting
import ViewBinding.Proofs.Text.Digits

/-!
# Reading back what was written as JSON

A value written in one line is found again by the reader, whatever text goes on behind it. Each
character of a string comes back from its escape, each integer of 64 bits from its digits, and each
list or record from its parts.

* `stringPieces?_flatMap_escape`: the characters of a string come back from between its quotes;
* `numberText?_digits`: the digits of an integer of 64 bits are read as this integer;
* `HasWords.readsBack`: a value is read back from before a comma or a closing bracket;
* `HasWords.readJson_render`: the reader finds the whole value, and nothing behind it.
-/

namespace ViewBinding

open Document

/-! ## Strings -/

namespace Document

variable {ps : List StringPiece} {rest more chars : List Char}

theorem joinPieces?_char (c : Char) (h : joinPieces? ps = some chars) :
    joinPieces? (.char c :: ps) = some (c :: chars) := by
  rw [joinPieces?, h, Option.map_some]

theorem joinPieces?_half {n : Nat} (hn : n < 0xD800) (h : joinPieces? ps = some chars) :
    joinPieces? (.half n :: ps) = some (Char.ofNat n :: chars) := by
  unfold joinPieces?
  simp [hn, h]

theorem stringPieces?_short {c d : Char} (hd : shortEscape? d = some c) (hu : d ≠ 'u')
    (h : stringPieces? rest = some (ps, more)) :
    stringPieces? ('\\' :: d :: rest) = some (.char c :: ps, more) := by
  rw [stringPieces?]
  · simp [hd, h]
  · intro a b e f tail heq
    exact absurd heq hu

theorem hexNumber?_hexDigit {n : Nat} (h : n < 32) :
    hexNumber? ['0', '0', Json.hexDigit (n / 16), Json.hexDigit (n % 16)] = some n := by
  have hall : ∀ n < 32,
      hexNumber? ['0', '0', Json.hexDigit (n / 16), Json.hexDigit (n % 16)] = some n := by decide
  exact hall n h

theorem stringPieces?_control {c : Char} (hc : c.toNat < 32)
    (h : stringPieces? rest = some (ps, more)) :
    stringPieces? ('\\' :: 'u' :: '0' :: '0' :: Json.hexDigit (c.toNat / 16) ::
      Json.hexDigit (c.toNat % 16) :: rest) = some (.half c.toNat :: ps, more) := by
  rw [stringPieces?, hexNumber?_hexDigit hc, h]
  rfl

theorem stringPieces?_plain {c : Char} (hq : c ≠ '"') (hb : c ≠ '\\') (hc : ¬ c.toNat < 32)
    (h : stringPieces? rest = some (ps, more)) :
    stringPieces? (c :: rest) = some (.char c :: ps, more) := by
  rw [stringPieces?]
  · simp [hb, hc, h]
  · exact hq
  · exact fun a b e f tail heq => absurd heq hb
  · exact fun d tail heq => absurd heq hb

/-- A character is written by a letter behind a backslash, by its number, or as it is. -/
theorem escape_cases (c : Char) :
    (∃ d, Json.escape c = ['\\', d] ∧ shortEscape? d = some c ∧ d ≠ 'u') ∨
      (c.toNat < 32 ∧ Json.escape c =
        ['\\', 'u', '0', '0', Json.hexDigit (c.toNat / 16), Json.hexDigit (c.toNat % 16)]) ∨
      (c ≠ '"' ∧ c ≠ '\\' ∧ ¬ c.toNat < 32 ∧ Json.escape c = [c]) := by
  unfold Json.escape
  split_ifs with h h h h h h h h
  iterate 7 exact .inl ⟨_, rfl, by rw [h]; rfl, by decide⟩
  · exact .inr (.inl ⟨h, rfl⟩)
  · exact .inr (.inr ⟨‹_›, ‹_›, h, rfl⟩)

/-- An escaped character is read as one piece, which stands for it. -/
theorem stringPieces?_escape (c : Char) (h : stringPieces? rest = some (ps, more)) :
    ∃ piece, stringPieces? (Json.escape c ++ rest) = some (piece :: ps, more) ∧
      ∀ chars, joinPieces? ps = some chars → joinPieces? (piece :: ps) = some (c :: chars) := by
  rcases escape_cases c with ⟨d, hescape, hd, hu⟩ | ⟨hc, hescape⟩ | ⟨hq, hb, hc, hescape⟩
  · rw [hescape]
    exact ⟨.char c, stringPieces?_short hd hu h, fun _ => joinPieces?_char c⟩
  · rw [hescape]
    refine ⟨.half c.toNat, stringPieces?_control hc h, fun chars hchars => ?_⟩
    rw [joinPieces?_half (by omega) hchars, Char.ofNat_toNat]
  · rw [hescape]
    exact ⟨.char c, stringPieces?_plain hq hb hc h, fun _ => joinPieces?_char c⟩

/-- The characters of a string come back from between its quotes. -/
theorem stringPieces?_flatMap_escape (cs rest : List Char) :
    ∃ ps, stringPieces? (cs.flatMap Json.escape ++ '"' :: rest) = some (ps, rest) ∧
      joinPieces? ps = some cs := by
  induction cs with
  | nil => exact ⟨[], by rw [List.flatMap_nil, List.nil_append, stringPieces?], rfl⟩
  | cons c cs ih =>
    obtain ⟨ps, hread, hjoin⟩ := ih
    obtain ⟨piece, hpiece, hmore⟩ := stringPieces?_escape c hread
    rw [List.flatMap_cons, List.append_assoc]
    exact ⟨_, hpiece, hmore cs hjoin⟩

/-! ## Numbers -/

theorem decimalNumber_toDigits (n : Nat) : decimalNumber (Nat.toDigits 10 n) = n := by
  have h := Nat.ofDigitChars_ten_toDigits (n := n)
  rw [Nat.ofDigitChars_eq_foldl] at h
  exact h

/-- No number but zero begins with a zero. -/
theorem head?_toDigits {n : Nat} (h : 0 < n) : (Nat.toDigits 10 n).head? ≠ some '0' := by
  induction n using Nat.strongRecOn with
  | _ n ih =>
    by_cases hn : n < 10
    · rw [Nat.toDigits_of_lt_base hn]
      have hall : ∀ d < 10, 0 < d → [Nat.digitChar d].head? ≠ some '0' := by decide
      exact hall n hn h
    · have hcut := Nat.toDigits_of_base_le (b := 10) (n := n) (by decide) (Nat.le_of_not_lt hn)
      have hfront := ih (n / 10) (by omega) (by omega)
      rw [hcut, List.head?_append]
      cases hhead : (Nat.toDigits 10 (n / 10)).head? with
      | none => exact absurd (List.head?_eq_none_iff.mp hhead) Nat.toDigits_ne_nil
      | some c => rwa [hhead] at hfront

end Document

namespace Json

theorem digits_ofNat (n : Nat) : digits (.ofNat n) = Nat.toDigits 10 n :=
  Nat.toList_repr

theorem digits_negSucc (n : Nat) : digits (.negSucc n) = '-' :: Nat.toDigits 10 (n + 1) := by
  rw [digits, Text.toList_toString_negSucc, Nat.toList_repr]

/-- A text behind a value: nothing, or what a list or a record goes on with. -/
def Continues (rest : List Char) : Prop :=
  ∀ c ∈ rest.head?, c = ',' ∨ c = ']' ∨ c = '\x7d'

end Json

namespace Document

theorem wholePart?_toDigits (n : Nat) {rest : List Char}
    (hrest : ∀ c ∈ rest.head?, c.isDigit = false) :
    wholePart? (Nat.toDigits 10 n ++ rest) = some (Nat.toDigits 10 n, rest) := by
  have hdigits : spanDigits (Nat.toDigits 10 n ++ rest) = (Nat.toDigits 10 n, rest) :=
    Text.span_append (fun c hc => Nat.isDigit_of_mem_toDigits (by decide) (by decide) hc) hrest
  unfold wholePart?
  rw [hdigits]
  split
  · next heq => exact absurd (Prod.mk.inj heq).1 Nat.toDigits_ne_nil
  · next heq =>
    have hzero := (Prod.mk.inj heq).1
    by_cases hn : 0 < n
    · exact absurd (by rw [hzero]; rfl) (head?_toDigits hn)
    · obtain rfl : n = 0 := by omega
      cases hzero
  · rfl

theorem fractionPart?_of_continues {rest : List Char} (h : Json.Continues rest) :
    fractionPart? rest = some (none, rest) := by
  unfold fractionPart?
  split
  · exact absurd (h '.' rfl) (by decide)
  · rfl

theorem exponentPart?_of_continues {rest : List Char} (h : Json.Continues rest) :
    exponentPart? rest = some (none, rest) := by
  unfold exponentPart?
  split
  · next c rest =>
    rcases h c rfl with rfl | rfl | rfl <;> rfl
  · rfl

theorem isDigit_of_continues {rest : List Char} (h : Json.Continues rest) :
    ∀ c ∈ rest.head?, c.isDigit = false := by
  intro c hc
  rcases h c hc with rfl | rfl | rfl <;> rfl

theorem numberText?_natural (n : Nat) {rest : List Char} (h : Json.Continues rest) :
    numberText? (Nat.toDigits 10 n ++ rest) =
      some (⟨false, Nat.toDigits 10 n, none, none⟩, rest) := by
  have hwhole := wholePart?_toDigits n (isDigit_of_continues h)
  have hsign : ∀ tail, Nat.toDigits 10 n ++ rest ≠ '-' :: tail := by
    intro tail heq
    obtain ⟨d, ds, hdigits⟩ := List.exists_cons_of_ne_nil (Nat.toDigits_ne_nil (n := n) (b := 10))
    rw [hdigits] at heq
    have hd := Nat.isDigit_of_mem_toDigits (b := 10) (n := n) (c := d) (by decide) (by decide)
      (by rw [hdigits]; exact List.mem_cons_self)
    rw [(List.cons.inj heq).1] at hd
    cases hd
  unfold numberText?
  split
  next heq =>
    split at heq
    · next tail ht => exact absurd ht (hsign tail)
    · cases heq
      simp [hwhole, fractionPart?_of_continues h, exponentPart?_of_continues h]

theorem numberText?_negative (n : Nat) {rest : List Char} (h : Json.Continues rest) :
    numberText? ('-' :: (Nat.toDigits 10 n ++ rest)) =
      some (⟨true, Nat.toDigits 10 n, none, none⟩, rest) := by
  have hwhole := wholePart?_toDigits n (isDigit_of_continues h)
  simp [numberText?, hwhole, fractionPart?_of_continues h, exponentPart?_of_continues h]

/-- The number is an integer of 64 bits, with or without sign. -/
def IsWord (n : Int) : Prop :=
  -0x8000000000000000 ≤ n ∧ n < 0x10000000000000000

/-- The digits of an integer of 64 bits are read as this integer. -/
theorem numberText?_digits {n : Int} (hn : IsWord n) {rest : List Char} (h : Json.Continues rest) :
    ∃ t, numberText? (Json.digits n ++ rest) = some (t, rest) ∧ t.document = .integer n := by
  obtain ⟨hlow, hhigh⟩ := hn
  cases n with
  | ofNat n =>
    refine ⟨_, by rw [Json.digits_ofNat]; exact numberText?_natural n h, ?_⟩
    have hfits : n < 0x10000000000000000 := Int.ofNat_lt.mp hhigh
    simp [NumberText.document, decimalNumber_toDigits, hfits]
  | negSucc n =>
    refine ⟨_, by rw [Json.digits_negSucc]; exact numberText?_negative (n + 1) h, ?_⟩
    have hfits : ¬ 0x8000000000000000 < n + 1 := by omega
    simp [NumberText.document, decimalNumber_toDigits, hfits]
    omega

end Document

namespace Json

mutual

/-- The document that a reader is to find in the text of a value. -/
def document : Json → Document
  | .null => .null
  | .bool b => .boolean b
  | .number n => .integer n
  | .text s => .text s
  | .array items => .list (documents items)
  | .object fields => .record (entries fields)

/-- The documents of several values. -/
def documents : List Json → List Document
  | [] => []
  | item :: rest => document item :: documents rest

/-- The entries of several fields. -/
def entries : List (String × Json) → List (Option String × Document)
  | [] => []
  | (key, value) :: rest => (some key, document value) :: entries rest

end

theorem documents_eq_map (items : List Json) : documents items = items.map document := by
  induction items with
  | nil => rw [documents, List.map_nil]
  | cons item rest ih => rw [documents, ih, List.map_cons]

theorem entries_eq_map (fields : List (String × Json)) :
    entries fields = fields.map fun field => (some field.1, field.2.document) := by
  induction fields with
  | nil => rw [entries, List.map_nil]
  | cons field rest ih =>
    obtain ⟨key, value⟩ := field
    rw [entries, ih, List.map_cons]

/-- Every number in the value is an integer of 64 bits, with or without sign. -/
inductive HasWords : Json → Prop
  | null : HasWords .null
  | bool (b : Bool) : HasWords (.bool b)
  | number {n : Int} (h : IsWord n) : HasWords (.number n)
  | text (s : String) : HasWords (.text s)
  | array {items : List Json} (h : ∀ item ∈ items, HasWords item) : HasWords (.array items)
  | object {fields : List (String × Json)} (h : ∀ field ∈ fields, HasWords field.2) :
      HasWords (.object fields)

theorem skipJsonBlanks_cons {c : Char} (cs : List Char) (h : isJsonBlank c = false) :
    skipJsonBlanks (c :: cs) = c :: cs := by
  simp [skipJsonBlanks, h]

/-- A sign or a digit begins the digits of a number. -/
theorem digits_eq_cons (n : Int) :
    ∃ c cs, digits n = c :: cs ∧ (c = '-' ∨ c.isDigit = true) := by
  cases n with
  | ofNat n =>
    obtain ⟨d, ds, hdigits⟩ := List.exists_cons_of_ne_nil (Nat.toDigits_ne_nil (n := n) (b := 10))
    have hd := Nat.isDigit_of_mem_toDigits (b := 10) (n := n) (c := d) (by decide) (by decide)
      (by rw [hdigits]; exact List.mem_cons_self)
    exact ⟨d, ds, (digits_ofNat n).trans hdigits, .inr hd⟩
  | negSucc n => exact ⟨'-', _, digits_negSucc n, .inl rfl⟩

/-- A character that neither ends a list nor is skipped before a value. -/
def Opens (c : Char) : Prop :=
  isJsonBlank c = false ∧ c ≠ ']'

theorem opens_of_isDigit {c : Char} (h : c.isDigit = true) : Opens c := by
  refine ⟨?_, ?_⟩
  · by_cases hb : isJsonBlank c = true
    · simp only [isJsonBlank, Bool.or_eq_true, beq_iff_eq] at hb
      rcases hb with ((rfl | rfl) | rfl) | rfl <;> cases h
    · exact Bool.eq_false_iff.mpr hb
  · rintro rfl
    cases h

theorem head_compact (j : Json) : ∃ c cs, j.compact = c :: cs ∧ Opens c := by
  cases j with
  | null => exact ⟨'n', _, rfl, by decide, by decide⟩
  | bool b => cases b <;> exact ⟨_, _, rfl, by decide, by decide⟩
  | text s => exact ⟨'"', _, rfl, by decide, by decide⟩
  | number n =>
    obtain ⟨c, cs, hdigits, hc⟩ := digits_eq_cons n
    refine ⟨c, cs, hdigits, ?_⟩
    rcases hc with rfl | hc
    · exact ⟨by decide, by decide⟩
    · exact opens_of_isDigit hc
  | array items =>
    cases items with
    | nil => exact ⟨'[', _, rfl, by decide, by decide⟩
    | cons item items => exact ⟨'[', _, by rw [compact]; rfl, by decide, by decide⟩
  | object fields =>
    cases fields with
    | nil => exact ⟨'\x7b', _, rfl, by decide, by decide⟩
    | cons field fields => exact ⟨'\x7b', _, by rw [compact]; rfl, by decide, by decide⟩

theorem readValue_of_numeral {c : Char} {cs : List Char} (hc : c = '-' ∨ c.isDigit = true)
    (fuel : Nat) {t : NumberText} {rest : List Char}
    (h : numberText? (c :: cs) = some (t, rest)) :
    readValue (fuel + 1) (c :: cs) = (t.document, some rest) := by
  have hopens : Opens c := by
    rcases hc with rfl | hc
    · exact ⟨by decide, by decide⟩
    · exact opens_of_isDigit hc
  rw [readValue, skipJsonBlanks_cons _ hopens.1]
  split
  · next heq => cases heq; rcases hc with hc | hc <;> cases hc
  · next heq => cases heq; rcases hc with hc | hc <;> cases hc
  · next heq => cases heq; rcases hc with hc | hc <;> cases hc
  · next heq => cases heq; rcases hc with hc | hc <;> cases hc
  · next heq => cases heq; rcases hc with hc | hc <;> cases hc
  · next heq => cases heq; rcases hc with hc | hc <;> cases hc
  · simp [h]

theorem HasWords.natural (n : UInt32) : (Json.natural n.toNat).HasWords := by
  have hn := n.toNat_lt
  exact .number ⟨by omega, by omega⟩

theorem HasWords.int32 (n : Int32) : (Json.number n.toInt).HasWords := by
  have hlow := n.le_toInt
  have hhigh := n.toInt_lt
  exact .number ⟨by omega, by omega⟩

theorem HasWords.map {α : Type} {encode : α → Json} (h : ∀ a, (encode a).HasWords)
    (items : List α) : (Json.array (items.map encode)).HasWords := by
  refine .array fun item hitem => ?_
  obtain ⟨a, -, rfl⟩ := List.mem_map.mp hitem
  exact h a

theorem HasWords.texts (items : List String) : (Json.texts items).HasWords :=
  .map .text items

theorem HasWords.field? {α : Type} {key : String} {encode : α → Json}
    (h : ∀ a, (encode a).HasWords) (o : Option α) :
    ∀ field ∈ Json.field? key encode o, field.2.HasWords := by
  intro field hfield
  cases o with
  | none => cases hfield
  | some a =>
    rw [List.mem_singleton.mp hfield]
    exact h a

/-- The text of the value is read back from before any text that goes on, given fuel for twice its
length. -/
def ReadsBack (j : Json) : Prop :=
  ∀ fuel rest, 2 * j.compact.length ≤ fuel → Continues rest →
    readValue fuel (j.compact ++ rest) = (j.document, some rest)

theorem exists_fuel {j : Json} {fuel : Nat} (h : 2 * j.compact.length ≤ fuel) :
    ∃ n, fuel = n + 1 := by
  obtain ⟨c, cs, hcompact, _⟩ := head_compact j
  rw [hcompact, List.length_cons] at h
  exact ⟨fuel - 1, by omega⟩

theorem readsBack_null : null.ReadsBack := by
  intro fuel rest hfuel _
  obtain ⟨fuel, rfl⟩ := exists_fuel hfuel
  rfl

theorem readsBack_bool (b : Bool) : (bool b).ReadsBack := by
  intro fuel rest hfuel _
  obtain ⟨fuel, rfl⟩ := exists_fuel hfuel
  cases b <;> rfl

theorem readsBack_number {n : Int} (h : IsWord n) : (number n).ReadsBack := by
  intro fuel rest hfuel hrest
  obtain ⟨fuel, rfl⟩ := exists_fuel hfuel
  obtain ⟨t, hread, ht⟩ := numberText?_digits h hrest
  obtain ⟨c, cs, hdigits, hc⟩ := digits_eq_cons n
  rw [hdigits, List.cons_append] at hread
  rw [compact, hdigits, List.cons_append, readValue_of_numeral hc fuel hread, ht, document]

theorem readsBack_text (s : String) : (text s).ReadsBack := by
  intro fuel rest hfuel _
  obtain ⟨fuel, rfl⟩ := exists_fuel hfuel
  obtain ⟨ps, hread, hjoin⟩ := stringPieces?_flatMap_escape s.toList rest
  have hcut : compact (text s) ++ rest = '"' :: (s.toList.flatMap escape ++ '"' :: rest) := by
    simp [compact, quoted]
  rw [hcut, readValue, skipJsonBlanks_cons _ (by decide)]
  simp [readString, hread, hjoin, document]

theorem continues_compactItems (items : List Json) (rest : List Char) :
    Continues (compactItems items ++ rest) := by
  cases items <;> simp [compactItems, Continues]

theorem continues_compactFields (fields : List (String × Json)) (rest : List Char) :
    Continues (compactFields fields ++ rest) := by
  cases fields <;> simp [compactFields, Continues]

/-- The items of a list are read back, from the first one on. -/
theorem readItems_compact {item : Json} {items : List Json} (hitem : item.ReadsBack)
    (hitems : ∀ j ∈ items, j.ReadsBack) (fuel : Nat) (rest : List Char)
    (hfuel : 2 * (item.compact.length + (compactItems items).length) ≤ fuel) :
    readItems fuel (item.compact ++ (compactItems items ++ rest)) =
      (documents (item :: items), some rest) := by
  induction items generalizing item fuel with
  | nil =>
    rw [compactItems, List.length_singleton] at hfuel
    obtain ⟨fuel, rfl⟩ : ∃ n, fuel = n + 1 := ⟨fuel - 1, by omega⟩
    rw [readItems, hitem fuel _ (by omega) (continues_compactItems [] rest)]
    simp [compactItems, skipJsonBlanks_cons, isJsonBlank, documents]
  | cons next items ih =>
    rw [compactItems, List.length_append, List.length_cons] at hfuel
    obtain ⟨fuel, rfl⟩ : ∃ n, fuel = n + 1 := ⟨fuel - 1, by omega⟩
    have hrest := ih (hitems next List.mem_cons_self)
      (fun j hj => hitems j (List.mem_cons_of_mem _ hj)) fuel (by omega)
    rw [readItems, hitem fuel _ (by omega) (continues_compactItems _ rest)]
    simp [compactItems, skipJsonBlanks_cons, isJsonBlank, documents, hrest]

/-- A field in front of a closing brace is the last one. In front of a comma, others are read. -/
theorem readEntries_quoted (key : String) {fuel : Nat} {cs more : List Char} {d : Document}
    (h : readValue fuel cs = (d, some more)) :
    (∀ rest, skipJsonBlanks more = '\x7d' :: rest →
      readEntries (fuel + 1) (quoted key ++ ':' :: cs) = ([(some key, d)], some rest)) ∧
    ∀ rest, skipJsonBlanks more = ',' :: rest →
      readEntries (fuel + 1) (quoted key ++ ':' :: cs) =
        ((some key, d) :: (readEntries fuel rest).1, (readEntries fuel rest).2) := by
  obtain ⟨ps, hread, hjoin⟩ := stringPieces?_flatMap_escape key.toList (':' :: cs)
  have hcut : quoted key ++ ':' :: cs = '"' :: (key.toList.flatMap escape ++ '"' :: ':' :: cs) := by
    simp [quoted]
  have hcolon := skipJsonBlanks_cons cs (show isJsonBlank ':' = false by decide)
  rw [hcut, readEntries, skipJsonBlanks_cons _ (by decide)]
  constructor <;> intro rest hrest <;>
    simp only [hread, hjoin, hcolon, h, hrest, Option.map_some, String.ofList_toList]

/-- The fields of a record are read back, from the first one on. -/
theorem readEntries_compact (key : String) {value : Json} {fields : List (String × Json)}
    (hvalue : value.ReadsBack) (hfields : ∀ field ∈ fields, field.2.ReadsBack) (fuel : Nat)
    (rest : List Char)
    (hfuel : 2 * (value.compact.length + (compactFields fields).length) ≤ fuel) :
    readEntries fuel (quoted key ++ ':' :: (value.compact ++ (compactFields fields ++ rest))) =
      (entries ((key, value) :: fields), some rest) := by
  induction fields generalizing key value fuel with
  | nil =>
    rw [compactFields, List.length_singleton] at hfuel
    obtain ⟨fuel, rfl⟩ : ∃ n, fuel = n + 1 := ⟨fuel - 1, by omega⟩
    have hread := hvalue fuel _ (by omega) (continues_compactFields [] rest)
    rw [(readEntries_quoted key hread).1 rest (skipJsonBlanks_cons rest (by decide))]
    rfl
  -- One unit of fuel goes to the entry read here; a comma leads to the next.
  | cons next fields ih =>
    obtain ⟨nextKey, nextValue⟩ := next
    rw [compactFields, List.length_append, List.length_append, List.length_cons,
      List.length_cons] at hfuel
    obtain ⟨fuel, rfl⟩ : ∃ n, fuel = n + 1 := ⟨fuel - 1, by omega⟩
    have hnext : nextValue.ReadsBack := hfields (nextKey, nextValue) List.mem_cons_self
    have hrest := ih nextKey hnext
      (fun field hfield => hfields field (List.mem_cons_of_mem _ hfield))
      fuel (by omega)
    have hread := hvalue fuel _ (by omega)
      (continues_compactFields ((nextKey, nextValue) :: fields) rest)
    have hcomma : skipJsonBlanks (compactFields ((nextKey, nextValue) :: fields) ++ rest) =
        ',' :: (quoted nextKey ++
          ':' :: (nextValue.compact ++ (compactFields fields ++ rest))) := by
      simp [compactFields, skipJsonBlanks_cons, isJsonBlank]
    rw [(readEntries_quoted key hread).2 _ hcomma, hrest]
    rfl

theorem readsBack_array {items : List Json} (h : ∀ item ∈ items, item.ReadsBack) :
    (array items).ReadsBack := by
  intro fuel rest hfuel _
  obtain ⟨fuel, rfl⟩ := exists_fuel hfuel
  cases items with
  | nil => rfl
  | cons item items =>
    rw [compact, List.cons_append, List.length_cons, List.length_append] at hfuel
    obtain ⟨c, cs, hcompact, hblank, hclose⟩ := head_compact item
    have hitems := readItems_compact (h item List.mem_cons_self)
      (fun j hj => h j (List.mem_cons_of_mem _ hj)) fuel rest (by omega)
    rw [hcompact, List.cons_append] at hitems
    have hopen : compact (array (item :: items)) ++ rest =
        '[' :: c :: (cs ++ (compactItems items ++ rest)) := by
      rw [compact, hcompact]
      simp
    rw [hopen, readValue, skipJsonBlanks_cons _ (by decide)]
    simp only [skipJsonBlanks_cons _ hblank]
    split
    · next heq => exact absurd (List.cons.inj heq).1 hclose
    · rw [hitems, document]

theorem readsBack_object {fields : List (String × Json)} (h : ∀ field ∈ fields, field.2.ReadsBack) :
    (object fields).ReadsBack := by
  intro fuel rest hfuel _
  obtain ⟨fuel, rfl⟩ := exists_fuel hfuel
  cases fields with
  | nil => rfl
  | cons field fields =>
    obtain ⟨key, value⟩ := field
    rw [compact, List.length_append, List.length_append, List.length_cons,
      List.length_cons] at hfuel
    have hvalue : value.ReadsBack := h (key, value) List.mem_cons_self
    have hentries := readEntries_compact key hvalue
      (fun j hj => h j (List.mem_cons_of_mem _ hj)) fuel rest (by omega)
    have hopen : compact (object ((key, value) :: fields)) ++ rest =
        '\x7b' :: (quoted key ++ ':' :: (value.compact ++ (compactFields fields ++ rest))) := by
      rw [compact]
      simp
    rw [hopen, readValue, skipJsonBlanks_cons _ (by decide)]
    have hquote : ∃ cs, quoted key ++ ':' :: (value.compact ++ (compactFields fields ++ rest)) =
        '"' :: cs := ⟨_, rfl⟩
    obtain ⟨cs, hquote⟩ := hquote
    rw [hquote] at hentries ⊢
    simp [skipJsonBlanks_cons, isJsonBlank, hentries, document]

/-- A value is read back if its numbers are integers of 64 bits. -/
theorem HasWords.readsBack {j : Json} (h : j.HasWords) : j.ReadsBack := by
  induction h with
  | null => exact readsBack_null
  | bool b => exact readsBack_bool b
  | number h => exact readsBack_number h
  | text s => exact readsBack_text s
  | array _ ih => exact readsBack_array ih
  | object _ ih => exact readsBack_object ih

/-- Reading the text of a value finds its document, and nothing behind it. -/
theorem HasWords.readJson_render {j : Json} (h : j.HasWords) :
    readJson j.render = (j.document, true) := by
  have hread := h.readsBack (2 * j.compact.length + 2) [] (by omega) (by simp [Continues])
  rw [List.append_nil] at hread
  rw [readJson, render, String.toList_ofList, hread]
  rfl

end Json

end ViewBinding
