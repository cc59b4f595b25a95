import ViewBinding.Text.Quoted

/-!
# Documents that were read

What a reader finds in a text of JSON or TOML. A JSON text need not be whole: the reader goes on as
far as the text is JSON and leaves a mark where it stops being so. Whoever decodes the document
from left to right meets a fault of its shape or the mark, whichever comes first.
-/

namespace ViewBinding

/-- What was found. `unreadable` is well formed but has no value, as a number out of range has none;
`broken` is where the text stops being a document. The key of an entry may be unreadable too. A
`moment` is a date or a time. -/
inductive Document where
  | null
  | boolean (b : Bool)
  | integer (n : Int)
  | real (shown : String)
  | text (s : String)
  | moment (shown : String)
  | list (items : List Document)
  | record (entries : List (Option String × Document))
  | unreadable
  | broken

namespace Document

/-- What was found, in the words of a message. -/
def describe : Document → String
  | null => "null"
  | boolean b => s!"boolean `{b}`"
  | integer n => s!"integer `{n}`"
  | real shown => s!"floating point `{shown}`"
  | text s => "string " ++ Text.quote s
  | list _ => "sequence"
  | _ => "map"

/-- The kind of what was found, in a word. -/
def kindName : Document → String
  | boolean _ => "boolean"
  | integer _ => "integer"
  | real _ => "float"
  | text _ => "string"
  | moment _ => "datetime"
  | list _ => "array"
  | _ => "table"

/-- The key under which a moment hides its text. -/
def momentKey : String := "$__toml_private_datetime"

mutual

/-- The text went on to the end of the document. -/
def isWhole : Document → Bool
  | .broken => false
  | .list items => areWhole items
  | .record entries => haveWholeValues entries
  | _ => true

/-- All items are whole. -/
def areWhole : List Document → Bool
  | [] => true
  | item :: rest => isWhole item && areWhole rest

/-- All entries are whole. -/
def haveWholeValues : List (Option String × Document) → Bool
  | [] => true
  | (_, value) :: rest => isWhole value && haveWholeValues rest

end

end Document

end ViewBinding
