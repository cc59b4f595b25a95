import ViewBinding.Json.Basic

/-!
# JSON text

Values written without any blank, and values written over several lines. In both, a character is
escaped only where JSON demands it.
-/

namespace ViewBinding.Json

/-- The lower-case digit of a number below 16. -/
def hexDigit (n : Nat) : Char :=
  if n < 10 then Char.ofNat (n + 48) else Char.ofNat (n + 87)

/-- A character inside a string. -/
def escape (c : Char) : List Char :=
  if c = '"' then ['\\', '"']
  else if c = '\\' then ['\\', '\\']
  else if c = '\x08' then ['\\', 'b']
  else if c = '\t' then ['\\', 't']
  else if c = '\n' then ['\\', 'n']
  else if c = '\x0c' then ['\\', 'f']
  else if c = '\r' then ['\\', 'r']
  else if c.toNat < 32 then
    ['\\', 'u', '0', '0', hexDigit (c.toNat / 16), hexDigit (c.toNat % 16)]
  else [c]

/-- A string in quotes. -/
def quoted (s : String) : List Char :=
  '"' :: s.toList.flatMap escape ++ ['"']

/-- The decimal digits of a number, with its sign. -/
def digits (n : Int) : List Char :=
  (toString n).toList

mutual

/-- A value in one line without blanks. -/
def compact : Json → List Char
  | .null => "null".toList
  | .bool b => (toString b).toList
  | .number n => digits n
  | .text s => quoted s
  | .array [] => ['[', ']']
  | .array (item :: rest) => '[' :: compact item ++ compactItems rest
  | .object [] => ['\x7b', '\x7d']
  | .object ((key, value) :: rest) =>
    '\x7b' :: quoted key ++ ':' :: compact value ++ compactFields rest

/-- The further items of an array, and its end. -/
def compactItems : List Json → List Char
  | [] => [']']
  | item :: rest => ',' :: compact item ++ compactItems rest

/-- The further fields of an object, and its end. -/
def compactFields : List (String × Json) → List Char
  | [] => ['\x7d']
  | (key, value) :: rest => ',' :: quoted key ++ ':' :: compact value ++ compactFields rest

end

/-- A new line, indented by two blanks for each level. -/
def lineBreak (level : Nat) : List Char :=
  '\n' :: List.replicate (2 * level) ' '

mutual

/-- A value over several lines, its first line being at a level. -/
def spread (level : Nat) : Json → List Char
  | .null => "null".toList
  | .bool b => (toString b).toList
  | .number n => digits n
  | .text s => quoted s
  | .array [] => ['[', ']']
  | .array (item :: rest) =>
    '[' :: lineBreak (level + 1) ++ spread (level + 1) item ++ spreadItems level rest
  | .object [] => ['\x7b', '\x7d']
  | .object ((key, value) :: rest) =>
    '\x7b' :: lineBreak (level + 1) ++ quoted key ++ ':' :: ' ' :: spread (level + 1) value ++
      spreadFields level rest

/-- The further items of an array at a level, and its end. -/
def spreadItems (level : Nat) : List Json → List Char
  | [] => lineBreak level ++ [']']
  | item :: rest =>
    ',' :: lineBreak (level + 1) ++ spread (level + 1) item ++ spreadItems level rest

/-- The further fields of an object at a level, and its end. -/
def spreadFields (level : Nat) : List (String × Json) → List Char
  | [] => lineBreak level ++ ['\x7d']
  | (key, value) :: rest =>
    ',' :: lineBreak (level + 1) ++ quoted key ++ ':' :: ' ' :: spread (level + 1) value ++
      spreadFields level rest

end

/-- A value as one line of text. -/
def render (j : Json) : String :=
  String.ofList j.compact

/-- A value as an indented text. -/
def renderSpread (j : Json) : String :=
  String.ofList (j.spread 0)

end ViewBinding.Json
