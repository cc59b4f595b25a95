/-!
# JSON values to be written

The values that the library writes as JSON. An object lists its fields in the order in which they
are written.
-/

namespace ViewBinding

/-- A JSON value. -/
inductive Json where
  | null
  | bool (b : Bool)
  | number (n : Int)
  | text (s : String)
  | array (items : List Json)
  | object (fields : List (String × Json))

namespace Json

/-- An array of texts. -/
def texts (items : List String) : Json :=
  array (items.map text)

/-- A field that is left out where there is no value. -/
def field? {α : Type} (key : String) (encode : α → Json) : Option α → List (String × Json)
  | none => []
  | some a => [(key, encode a)]

/-- A whole number without sign. -/
def natural (n : Nat) : Json :=
  number n

end Json

end ViewBinding
