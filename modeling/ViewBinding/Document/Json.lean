import ViewBinding.Decimal.Shortest
import ViewBinding.Document.Basic

/-!
# Reading JSON

The longest beginning of a text that is JSON, as a document. Nothing is refused here: where the
text is not JSON, the document is broken, and all that stands before that place is kept.

An integer has a value if it fits 64 bits, with or without sign; any other number is a double,
reached by scaling its first digits by a power of ten.
-/

namespace ViewBinding.Document

/-- The white space of JSON. -/
def isJsonBlank (c : Char) : Bool :=
  c == ' ' || c == '\t' || c == '\n' || c == '\r'

/-- The text from its first character that is no white space. -/
def skipJsonBlanks (cs : List Char) : List Char :=
  cs.dropWhile isJsonBlank

/-! ## Strings -/

/-- The value of a hexadecimal digit. -/
def hexValue? (c : Char) : Option Nat :=
  if '0' ≤ c && c ≤ '9' then some (c.toNat - 48)
  else if 'a' ≤ c && c ≤ 'f' then some (c.toNat - 87)
  else if 'A' ≤ c && c ≤ 'F' then some (c.toNat - 55)
  else none

/-- The number written by hexadecimal digits. -/
def hexNumber? (cs : List Char) : Option Nat :=
  cs.foldlM (fun n c => (hexValue? c).map (16 * n + ·)) 0

/-- A piece of a string: a character, or a number of 16 bits that may be half of one. -/
inductive StringPiece where
  | char (c : Char)
  | half (n : Nat)
  deriving DecidableEq, Repr

/-- The character of a one-letter escape. -/
def shortEscape? (c : Char) : Option Char :=
  match c with
  | '"' => some '"'
  | '\\' => some '\\'
  | '/' => some '/'
  | 'b' => some '\x08'
  | 'f' => some '\x0c'
  | 'n' => some '\n'
  | 'r' => some '\r'
  | 't' => some '\t'
  | _ => none

/-- The pieces of a string up to its closing quote, and what follows it. -/
def stringPieces? : List Char → Option (List StringPiece × List Char)
  | [] => none
  | '"' :: rest => some ([], rest)
  | '\\' :: 'u' :: a :: b :: c :: d :: rest => do
    let n ← hexNumber? [a, b, c, d]
    let (pieces, rest) ← stringPieces? rest
    return (.half n :: pieces, rest)
  | '\\' :: c :: rest => do
    let c ← shortEscape? c
    let (pieces, rest) ← stringPieces? rest
    return (.char c :: pieces, rest)
  | c :: rest =>
    if c = '\\' || c.toNat < 32 then none
    else do
      let (pieces, rest) ← stringPieces? rest
      return (.char c :: pieces, rest)

/-- The characters of the pieces, if the halves stand in pairs. -/
def joinPieces? : List StringPiece → Option (List Char)
  | [] => some []
  | .char c :: rest => (joinPieces? rest).map (c :: ·)
  | .half n :: rest =>
    if n < 0xD800 || 0xDFFF < n then (joinPieces? rest).map (Char.ofNat n :: ·)
    -- A high half needs a low one right behind it; a low one never comes first.
    else if n < 0xDC00 then
      match rest with
      | .half low :: rest =>
        if 0xDC00 ≤ low && low ≤ 0xDFFF then
          (joinPieces? rest).map
            (Char.ofNat (0x10000 + (n - 0xD800) * 0x400 + (low - 0xDC00)) :: ·)
        else none
      | _ => none
    else none

/-! ## Numbers -/

/-- A number by its parts: the digits before and after the point, and the power of ten. -/
structure NumberText where
  negative : Bool
  whole : List Char
  fraction : Option (List Char)
  exponent : Option (Bool × List Char)
  deriving DecidableEq, Repr

/-- The digits at the start of a text, and the rest. -/
def spanDigits (cs : List Char) : List Char × List Char :=
  cs.span Char.isDigit

/-- The digits before the point: a zero alone, or digits that do not begin with one. -/
def wholePart? (cs : List Char) : Option (List Char × List Char) :=
  match spanDigits cs with
  | ([], _) => none
  | ('0' :: _ :: _, _) => none
  | found => some found

/-- The digits after the point, if there is one. -/
def fractionPart? (cs : List Char) : Option (Option (List Char) × List Char) :=
  match cs with
  | '.' :: rest =>
    match spanDigits rest with
    | ([], _) => none
    | (digits, rest) => some (some digits, rest)
  | _ => some (none, cs)

/-- The power of ten, if there is one; its sign is true where it is negative. -/
def exponentPart? (cs : List Char) : Option (Option (Bool × List Char) × List Char) :=
  match cs with
  | c :: rest =>
    if c == 'e' || c == 'E' then
      let (negative, rest) :=
        match rest with
        | '-' :: rest => (true, rest)
        | '+' :: rest => (false, rest)
        | _ => (false, rest)
      match spanDigits rest with
      | ([], _) => none
      | (digits, rest) => some (some (negative, digits), rest)
    else some (none, cs)
  | [] => some (none, cs)

/-- The number at the start of a text, and the rest. -/
def numberText? (cs : List Char) : Option (NumberText × List Char) := do
  let (negative, cs) :=
    match cs with
    | '-' :: rest => (true, rest)
    | _ => (false, cs)
  let (whole, cs) ← wholePart? cs
  let (fraction, cs) ← fractionPart? cs
  let (exponent, cs) ← exponentPart? cs
  return (⟨negative, whole, fraction, exponent⟩, cs)

/-- The natural number written by decimal digits. -/
def decimalNumber (cs : List Char) : Nat :=
  cs.foldl (fun n c => 10 * n + (c.toNat - 48)) 0

/-- The digits that fit 64 bits as a number, going on from `n`, and how many are left over. -/
def leadingDigits (n : Nat) : List Char → Nat × Nat
  | [] => (n, 0)
  | c :: rest =>
    let next := 10 * n + (c.toNat - 48)
    if next < 0x10000000000000000 then leadingDigits next rest else (n, rest.length + 1)

/-- A double times a power of ten; none where the product is out of range. -/
def scale? (x : Float) (exponent : Int) : Nat → Option Float
  | 0 => some x
  | fuel + 1 =>
    if exponent.natAbs ≤ 308 then
      let power := Float.ofScientific 1 false exponent.natAbs
      if 0 ≤ exponent then
        if (x * power).isInf then none else some (x * power)
      else some (x / power)
    else if x == 0.0 then some x
    else if 0 ≤ exponent then none
    -- No double holds a larger power of ten, so a small number is brought down in steps.
    else scale? (x / Float.ofScientific 1 false 308) (exponent + 308) fuel

/-- The power of ten that a number states, within 32 bits. -/
def NumberText.stated (t : NumberText) : Int :=
  match t.exponent with
  | none => 0
  | some (negative, digits) =>
    let n : Int := min (decimalNumber digits) 0x80000000
    if negative then -n else n

/-- The number as a double, by its first digits and a power of ten. -/
def NumberText.double? (t : NumberText) : Option Float :=
  let (whole, wholeLeft) := leadingDigits 0 t.whole
  let fraction := t.fraction.getD []
  let (digits, fractionLeft) := leadingDigits whole fraction
  let exponent := t.stated + wholeLeft - (fraction.length - fractionLeft : Nat)
  (scale? digits.toUInt64.toFloat exponent 8).map fun x => if t.negative then -x else x

/-- A double in a message: a tie goes to the even digit, and a number from `1e-5` up to `1e16` is
written without a power of ten. -/
def realLayout : Decimal.Layout where
  tie := .toEven
  positional power := -5 ≤ power && power < 16

/-- The number as a document. -/
def NumberText.document (t : NumberText) : Document :=
  let n := decimalNumber t.whole
  let asReal :=
    match t.double? with
    | some x => .real (realLayout.showDouble x)
    | none => .unreadable
  if t.fraction.isSome || t.exponent.isSome then asReal
  else if t.negative then
    -- Minus zero is a double, since no integer keeps its sign.
    if n = 0 || 0x8000000000000000 < n then asReal else .integer (-n)
  else if n < 0x10000000000000000 then .integer n
  else asReal

/-! ## Values -/

/-- The rest of a text after a word that it begins with. -/
def afterWord? : List Char → List Char → Option (List Char)
  | [], cs => some cs
  | _ :: _, [] => none
  | w :: word, c :: cs => if w = c then afterWord? word cs else none

/-- A literal if its word stands there, and the rest. -/
def literal (word : String) (value : Document) (cs : List Char) :
    Document × Option (List Char) :=
  match afterWord? word.toList cs with
  | some rest => (value, some rest)
  | none => (.broken, none)

/-- The string after an opening quote, and the rest. -/
def readString (cs : List Char) : Document × Option (List Char) :=
  match stringPieces? cs with
  | none => (.broken, none)
  | some (pieces, rest) =>
    match joinPieces? pieces with
    | some chars => (.text (String.ofList chars), some rest)
    | none => (.unreadable, some rest)

mutual

/-- The value at the start of a text, and what follows it unless the text breaks off inside. The
fuel bounds the calls; twice the length of the text suffices. -/
def readValue : Nat → List Char → Document × Option (List Char)
  | 0, _ => (.broken, none)
  | fuel + 1, cs =>
    match skipJsonBlanks cs with
    | '"' :: rest => readString rest
    | '[' :: rest =>
      match skipJsonBlanks rest with
      | ']' :: rest => (.list [], some rest)
      | rest =>
        let (items, rest) := readItems fuel rest
        (.list items, rest)
    | '\x7b' :: rest =>
      match skipJsonBlanks rest with
      | '\x7d' :: rest => (.record [], some rest)
      | rest =>
        let (entries, rest) := readEntries fuel rest
        (.record entries, rest)
    | 'n' :: rest => literal "ull" .null rest
    | 't' :: rest => literal "rue" (.boolean true) rest
    | 'f' :: rest => literal "alse" (.boolean false) rest
    | cs =>
      match numberText? cs with
      | some (number, rest) => (number.document, some rest)
      | none => (.broken, none)

/-- The items of a list up to its closing bracket. -/
def readItems : Nat → List Char → List Document × Option (List Char)
  | 0, _ => ([.broken], none)
  | fuel + 1, cs =>
    match readValue fuel cs with
    | (item, none) => ([item, .broken], none)
    | (item, some rest) =>
      match skipJsonBlanks rest with
      | ',' :: rest =>
        let (items, rest) := readItems fuel rest
        (item :: items, rest)
      | ']' :: rest => ([item], some rest)
      | _ => ([item, .broken], none)

/-- The entries of a record up to its closing brace. -/
def readEntries : Nat → List Char → List (Option String × Document) × Option (List Char)
  | 0, _ => ([(none, .broken)], none)
  | fuel + 1, cs =>
    match skipJsonBlanks cs with
    | '"' :: rest =>
      match stringPieces? rest with
      | none => ([(none, .broken)], none)
      | some (pieces, rest) =>
        let key := (joinPieces? pieces).map String.ofList
        match skipJsonBlanks rest with
        | ':' :: rest =>
          match readValue fuel rest with
          | (value, none) => ([(key, value), (none, .broken)], none)
          | (value, some rest) =>
            match skipJsonBlanks rest with
            | ',' :: rest =>
              let (entries, rest) := readEntries fuel rest
              ((key, value) :: entries, rest)
            | '\x7d' :: rest => ([(key, value)], some rest)
            | _ => ([(key, value), (none, .broken)], none)
        | _ => ([(key, .broken)], none)
    | _ => ([(none, .broken)], none)

end

/-- The document of a JSON text, and whether the text ends with it. -/
def readJson (text : String) : Document × Bool :=
  let cs := text.toList
  match readValue (2 * cs.length + 2) cs with
  | (document, some rest) => (document, (skipJsonBlanks rest).isEmpty)
  | (document, none) => (document, false)

end ViewBinding.Document
