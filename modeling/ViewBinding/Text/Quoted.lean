import ViewBinding.Text.Printable

/-!
# Quoted texts

A text is quoted inside a message: the quote, the backslash and the usual control characters are
escaped by a letter, what does not stand for itself by its number.
-/

namespace ViewBinding.Text

/-- A character inside a quotation. -/
def quoteChar (c : Char) : String :=
  match c with
  | '\x00' => "\\0"
  | '\t' => "\\t"
  | '\r' => "\\r"
  | '\n' => "\\n"
  | '\\' => "\\\\"
  | '"' => "\\\""
  | c =>
    if isShown c then String.singleton c
    else "\\u\x7b" ++ String.ofList (Nat.toDigits 16 c.toNat) ++ "\x7d"

/-- The text between double quotes, escaped where it has to be. -/
def quote (text : String) : String :=
  "\"" ++ String.join (text.toList.map quoteChar) ++ "\""

end ViewBinding.Text
