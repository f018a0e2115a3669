import FacetFilter.Facet.Category
import FacetFilter.Text.Pieces

/-! Toggles as a user writes them: a category name, a colon and the value to flip. -/

namespace FacetFilter

/-- What can be wrong with the words a user gives for a category or a toggle. -/
inductive ArgumentError where
  /-- The text names no category. -/
  | unknownCategory (text : String)
  /-- The text has no colon, or nothing but blanks after it. -/
  | invalidToggle (text : String)
deriving DecidableEq, Repr

def ArgumentError.message : ArgumentError → String
  | .unknownCategory text =>
    "unknown facet category: " ++ Text.quoted text ++ " (expected country, asn or service)"
  | .invalidToggle text =>
    "invalid toggle " ++ Text.quoted text ++ ": expected <category>:<value>"

def Category.parse (text : String) : Except ArgumentError Category :=
  match ofName? text with
  | some c => .ok c
  | none => .error (.unknownCategory text)

/-- A value to flip in a category. -/
structure Toggle where
  category : Category
  value : String
deriving DecidableEq, Repr

/-- The first colon ends the category name. A missing or blank value is reported before an
unknown category. -/
def Toggle.parse (text : String) : Except ArgumentError Toggle :=
  match Text.cut ':' text.toList with
  | (_, none) => .error (.invalidToggle text)
  | (name, some after) =>
    let value := Text.trim after
    if value.isEmpty then .error (.invalidToggle text)
    else do
      let category ← Category.parse (String.ofList name)
      return ⟨category, String.ofList value⟩

end FacetFilter
