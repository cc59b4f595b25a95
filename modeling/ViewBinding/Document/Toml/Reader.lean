import ViewBinding.Document.Toml.Scalar
import ViewBinding.Document.Toml.Table

/-!
# Reading TOML

A TOML text is read as a whole: it has a document only if all of it is well formed and no key is
given twice. The keys of each table then come in ascending order. Numbers without a value do not
count against the text; they are unreadable where they stand.
-/

namespace ViewBinding.Toml

/-- The blanks inside a line. -/
def isBlank (c : Char) : Bool :=
  c == ' ' || c == '\t'

/-- The text from its first character that is no blank. -/
def skipBlanks (cs : List Char) : List Char :=
  cs.dropWhile isBlank

/-- A character that may stand in a line of text: no control character but the tabulator. -/
def isLineChar (c : Char) : Bool :=
  c == '\t' || (32 ≤ c.toNat && c.toNat != 127)

mutual

/-- Skips blanks, line ends and comments. -/
def skipTrivia : List Char → Option (List Char)
  | '\r' :: '\n' :: rest => skipTrivia rest
  | '#' :: rest => skipComment rest
  | c :: rest => if isBlank c || c == '\n' then skipTrivia rest else some (c :: rest)
  | [] => some []

/-- Skips a comment, and what `skipTrivia` skips after it. -/
def skipComment : List Char → Option (List Char)
  | '\r' :: '\n' :: rest => skipTrivia rest
  | '\n' :: rest => skipTrivia rest
  | c :: rest => if isLineChar c then skipComment rest else none
  | [] => some []

end

/-- The rest after the end of a line, before which a comment may stand. -/
def endLine? (cs : List Char) : Option (List Char) :=
  match skipBlanks cs with
  | [] => some []
  | '\n' :: rest => skipTrivia rest
  | '\r' :: '\n' :: rest => skipTrivia rest
  | '#' :: rest => skipComment rest
  | _ => none

/-! ## Strings -/

/-- The character of a code point written in hexadecimal digits. -/
def scalarValue? (cs : List Char) : Option Char := do
  let n ← Document.hexNumber? cs
  if n < 0xD800 || (0xDFFF < n && n < 0x110000) then some (Char.ofNat n) else none

/-- The character of an escape by `n` hexadecimal digits, and the rest. -/
def hexEscape? (n : Nat) (cs : List Char) : Option (Char × List Char) :=
  if cs.length < n then none else (scalarValue? (cs.take n)).map (·, cs.drop n)

/-- The character of an escape after its backslash, and the rest. -/
def escape? : List Char → Option (Char × List Char)
  | 'x' :: rest => hexEscape? 2 rest
  | 'u' :: rest => hexEscape? 4 rest
  | 'U' :: rest => hexEscape? 8 rest
  | 'e' :: rest => some ('\x1b', rest)
  -- The one short escape of JSON that is none here.
  | '/' :: _ => none
  | c :: rest => (Document.shortEscape? c).map (·, rest)
  | [] => none

/-- A string in double quotes, up to the closing one. The fuel bounds its length. -/
def basicString? : Nat → List Char → Option (List Char × List Char)
  | 0, _ => none
  | _ + 1, [] => none
  | fuel + 1, c :: rest =>
    if c = '"' then some ([], rest)
    else if c = '\\' then do
      let (c, rest) ← escape? rest
      let (chars, rest) ← basicString? fuel rest
      return (c :: chars, rest)
    else if isLineChar c then do
      let (chars, rest) ← basicString? fuel rest
      return (c :: chars, rest)
    else none

/-- A string in single quotes, up to the closing one. -/
def literalString? (cs : List Char) : Option (List Char × List Char) :=
  match cs.span fun c => c != '\'' && isLineChar c with
  | (chars, '\'' :: rest) => some (chars, rest)
  | _ => none

/-- The text without a line end at its start. -/
def dropLineEnd : List Char → List Char
  | '\n' :: rest => rest
  | '\r' :: '\n' :: rest => rest
  | cs => cs

/-- The rest after the line ends and blanks that an escaped line end swallows. -/
def swallow : List Char → List Char
  | '\r' :: '\n' :: rest => swallow rest
  | c :: rest => if isBlank c || c == '\n' then swallow rest else c :: rest
  | [] => []

/-- The rest after a line end with blanks before it. -/
def escapedLineEnd? (cs : List Char) : Option (List Char) :=
  match skipBlanks cs with
  | '\n' :: rest => some (swallow rest)
  | '\r' :: '\n' :: rest => some (swallow rest)
  | _ => none

/-- A string over several lines, up to three closing quotes, before which two more may stand. The
escapes of basic strings hold where `escapes` is set. -/
def longString? (quote : Char) (escapes : Bool) : Nat → List Char → Option (List Char × List Char)
  | 0, _ => none
  | _ + 1, [] => none
  | fuel + 1, c :: rest =>
    if c = quote then
      let run := 1 + (rest.takeWhile (· == quote)).length
      -- The last three quotes of a run close the string; those before them are part of it.
      if 3 ≤ run then
        let kept := min run 5 - 3
        some (List.replicate kept quote, rest.drop (kept + 2))
      else do
        let (chars, rest) ← longString? quote escapes fuel rest
        return (c :: chars, rest)
    else if c = '\\' && escapes then
      match escapedLineEnd? rest with
      | some rest => longString? quote escapes fuel rest
      | none => do
        let (c, rest) ← escape? rest
        let (chars, rest) ← longString? quote escapes fuel rest
        return (c :: chars, rest)
    else if isLineChar c || c = '\n' || (c = '\r' && rest.head? == some '\n') then do
      let (chars, rest) ← longString? quote escapes fuel rest
      return (c :: chars, rest)
    else none

/-! ## Keys -/

/-- A character of a key without quotes. -/
def isBareKeyChar (c : Char) : Bool :=
  c.isAlphanum || c == '_' || c == '-'

/-- A single key, and the rest. -/
def key? (cs : List Char) : Option (String × List Char) :=
  match cs with
  | '"' :: rest =>
    (basicString? (rest.length + 1) rest).map fun (k, rest) => (String.ofList k, rest)
  | '\'' :: rest => (literalString? rest).map fun (k, rest) => (String.ofList k, rest)
  | _ =>
    match cs.span isBareKeyChar with
    | ([], _) => none
    | (chars, rest) => some (String.ofList chars, rest)

/-- How many lists and tables may stand one inside the other, and how many parts a key may have. -/
def nestingLimit : Nat := 80

/-- The parts of a dotted key, with blanks around the dots and after it, and the rest. There may be
no more parts than `room` says. -/
def dottedKey? (room : Nat) (cs : List Char) : Option (List String × List Char) :=
  match room with
  | 0 => none
  | room + 1 => do
    let (key, rest) ← key? (skipBlanks cs)
    match skipBlanks rest with
    | '.' :: rest => do
      let (keys, rest) ← dottedKey? room rest
      return (key :: keys, rest)
    | rest => return ([key], rest)

/-! ## Values -/

/-- A character of a number, a truth value, a date or a time: any that does not end such a word. -/
def isScalarChar (c : Char) : Bool :=
  !isBlank c && !(['=', ',', '[', ']', '\x7b', '\x7d', '#', '\r', '\n'].contains c)

/-- A word goes on here after blanks: not with a string or a point. -/
def resumesWord (cs : List Char) : Bool :=
  cs.head?.any fun c => isScalarChar c && !(['.', '\'', '"'].contains c)

/-- The word at the start of a text, and the rest. Blanks with more of a word after them belong to
it, as those between a date and a time. -/
def scalarWord : List Char → List Char × List Char
  | [] => ([], [])
  | c :: rest =>
    if isScalarChar c || (isBlank c && resumesWord (skipBlanks rest)) then
      let (word, rest) := scalarWord rest
      (c :: word, rest)
    else ([], c :: rest)

/-- A text as a document. -/
def asText (found : Option (List Char × List Char)) : Option (Document × List Char) :=
  found.map fun (chars, rest) => (.text (String.ofList chars), rest)

/-- The room that is left one level deeper, if there is any. -/
def deeper? : Nat → Option Nat
  | 0 => none
  | room + 1 => some room

mutual

/-- The value at the start of a text, and the rest. The fuel bounds the calls; four times the length
of the text suffices. `room` is how much deeper lists and tables may yet nest. -/
def value? : Nat → Nat → List Char → Option (Document × List Char)
  | 0, _, _ => none
  | fuel + 1, room, cs =>
    match cs with
    | '"' :: '"' :: '"' :: rest =>
      asText (longString? '"' true (rest.length + 1) (dropLineEnd rest))
    | '"' :: rest => asText (basicString? (rest.length + 1) rest)
    | '\'' :: '\'' :: '\'' :: rest =>
      asText (longString? '\'' false (rest.length + 1) (dropLineEnd rest))
    | '\'' :: rest => asText (literalString? rest)
    | '[' :: rest => do
      let (items, rest) ← items? fuel (← deeper? room) rest
      return (.list items, rest)
    | '\x7b' :: rest => do
      let (entries, rest) ← inlineTable? fuel (← deeper? room) [] rest
      return (.record (documentEntries entries), rest)
    | _ => do
      let (word, rest) := scalarWord cs
      let d ← scalar? word
      return (d, rest)

/-- The items of a list, up to its closing bracket. -/
def items? : Nat → Nat → List Char → Option (List Document × List Char)
  | 0, _, _ => none
  | fuel + 1, room, cs => do
    match ← skipTrivia cs with
    | ']' :: rest => return ([], rest)
    | cs =>
      let (item, rest) ← value? fuel room cs
      match ← skipTrivia rest with
      | ']' :: rest => return ([item], rest)
      | ',' :: rest =>
        let (items, rest) ← items? fuel room rest
        return (item :: items, rest)
      | _ => none

/-- The entries of a table in braces, added to those there are, up to its closing brace. -/
def inlineTable? : Nat → Nat → Entries → List Char → Option (Entries × List Char)
  | 0, _, _, _ => none
  | fuel + 1, room, entries, cs => do
    match ← skipTrivia cs with
    | '\x7d' :: rest => return (entries, rest)
    | cs =>
      let (keys, rest) ← dottedKey? nestingLimit cs
      let rest ← expect? '=' (← skipTrivia rest)
      let (d, rest) ← value? fuel room (← skipTrivia rest)
      let entries ← putValue .header entries keys d
      match ← skipTrivia rest with
      | '\x7d' :: rest => return (entries, rest)
      | ',' :: rest => inlineTable? fuel room entries rest
      | _ => none

end

/-! ## Texts -/

/-- What has been read: the root table and the header in force. -/
structure Reading where
  root : Entries := []
  header : List String := []

/-- Reads a header in brackets and opens its table. -/
def header? (r : Reading) (cs : List Char) : Option (Reading × List Char) := do
  match cs with
  | '[' :: '[' :: rest =>
    let (keys, rest) ← dottedKey? nestingLimit rest
    let rest ← expect? ']' (← expect? ']' rest)
    let root ← addTable r.root keys
    return (⟨root, keys⟩, rest)
  | '[' :: rest =>
    let (keys, rest) ← dottedKey? nestingLimit rest
    let rest ← expect? ']' rest
    let root ← openTable r.root keys
    return (⟨root, keys⟩, rest)
  | _ => none

/-- Reads a key with its value into the table of the header in force. -/
def entry? (r : Reading) (cs : List Char) : Option (Reading × List Char) := do
  let (keys, rest) ← dottedKey? nestingLimit cs
  let rest ← expect? '=' rest
  let (d, rest) ← value? (4 * rest.length + 4) nestingLimit (skipBlanks rest)
  let root ← putUnder r.root r.header keys d
  return ({ r with root }, rest)

/-- Reads line after line. The fuel bounds the number of lines. -/
def lines? : Nat → Reading → List Char → Option Reading
  | 0, _, _ => none
  | fuel + 1, r, cs =>
    match cs with
    | [] => some r
    | c :: _ => do
      let (r, rest) ← if c = '[' then header? r cs else entry? r cs
      let rest ← endLine? rest
      lines? fuel r rest

/-- The document of a TOML text; a byte order mark may stand before it. -/
def read? (text : String) : Option Document := do
  let cs :=
    match text.toList with
    | '\ufeff' :: rest => rest
    | cs => cs
  let cs ← skipTrivia cs
  let r ← lines? (cs.length + 1) {} cs
  return .record (documentEntries r.root)

end ViewBinding.Toml
