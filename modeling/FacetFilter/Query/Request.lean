import FacetFilter.Selection.State
import FacetFilter.Text.FormEncoded

/-! Requests: what a committed selection asks the next page for, one parameter for each
category with a choice. The query text escapes every member by itself and leaves the commas
between members as they are. -/

namespace FacetFilter

/-- A category and its members in order. -/
structure Parameter where
  category : Category
  members : List String
deriving DecidableEq, Repr

namespace Parameter

def key (p : Parameter) : String := p.category.key

/-- The members joined by commas, nothing escaped. -/
def value (p : Parameter) : String := Text.commaJoined p.members

/-- The parameter as it stands in a query. -/
def text (p : Parameter) : List Char :=
  p.key.toList ++ '=' :: Text.join ',' (p.members.map fun m => Text.FormEncoded.encode m.toList)

end Parameter

/-- No parameters at all stand for no filters. -/
structure Request where
  parameters : List Parameter
deriving DecidableEq, Repr

namespace Request

def empty : Request := ⟨[]⟩

/-- The request for a selection; a category without a choice has no parameter. -/
def ofSelection (s : Selection) (o : MemberOrder) : Request where
  parameters := Category.all.filterMap fun c =>
    if (s.get c).isEmpty then none else some ⟨c, (s.get c).ordered c o⟩

def isEmpty (r : Request) : Bool := r.parameters.isEmpty

/-- Keys and values, nothing escaped. -/
def pairs (r : Request) : List (String × String) := r.parameters.map fun p => (p.key, p.value)

/-- The value of the parameter with this key. -/
def get? (r : Request) (key : String) : Option String :=
  (r.parameters.find? (·.key == key)).map Parameter.value

/-- The query of the request, without a question mark before it. -/
def query (r : Request) : List Char := Text.join '&' (r.parameters.map Parameter.text)

def text (r : Request) : String := String.ofList r.query

end Request

end FacetFilter
