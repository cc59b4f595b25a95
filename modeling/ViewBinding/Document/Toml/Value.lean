import ViewBinding.Document.Toml.Scalar

/-!
# Documents that are values by themselves

A TOML document is decoded into what is wanted of it. Without regard to that, it is a value if each
of its scalars is one: an integer fits 64 bits with sign, and a table that is marked as a moment has
the text of a moment.
-/

namespace ViewBinding.Toml

open Document

/-- What stands under the mark of a moment, if that is the first key of a table. -/
def markedMoment? : List (Option String × Document) → Option Document
  | (some key, d) :: _ => if key = momentKey then some d else none
  | _ => none

/-- The text of a date, a time or both. -/
def isMomentText : Document → Bool
  | .text s => isMoment s.toList
  | _ => false

mutual

/-- The document is a value, whatever is wanted of it. -/
def isValue : Document → Bool
  | .unreadable | .broken => false
  | .integer n => -0x8000000000000000 ≤ n && n < 0x8000000000000000
  | .list items => areValues items
  | .record entries =>
    match markedMoment? entries with
    | some d => isMomentText d
    | none => haveValues entries
  | _ => true

/-- All items are values. -/
def areValues : List Document → Bool
  | [] => true
  | item :: rest => isValue item && areValues rest

/-- What stands under the keys are values. -/
def haveValues : List (Option String × Document) → Bool
  | [] => true
  | (_, d) :: rest => isValue d && haveValues rest

end

/-- The document of a whole text is a value; its keys mark nothing. -/
def isRootValue : Document → Bool
  | .record entries => haveValues entries
  | d => isValue d

end ViewBinding.Toml
