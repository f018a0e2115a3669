import FacetFilter.Selection.State
import FacetFilter.Text.FormEncoded

/-! The filters that a query lists. Each parameter named for a category gives the pieces of
its value between commas, trimmed, without the blank ones; a repeated parameter adds to what
came before, and every other parameter is passed over. -/

namespace FacetFilter

/-- The pieces of a parameter's value. -/
def listedMembers (value : List Char) : List String :=
  (((Text.pieces ',' value).map Text.trim).filter (!·.isEmpty)).map String.ofList

namespace RawFilters

/-- The filters of decoded parameters. -/
def ofPairs (pairs : List (List Char × List Char)) : RawFilters :=
  .ofFun fun c => pairs.flatMap fun (key, value) =>
    if String.ofList key = c.key then listedMembers value else []

/-- A query without the question mark that may stand before it. -/
def afterMark : List Char → List Char
  | '?' :: rest => rest
  | query => query

/-- The filters of a query; one leading question mark is allowed. -/
def ofQuery (query : List Char) : RawFilters :=
  ofPairs (Text.FormEncoded.pairs (afterMark query))

/-- The lists of a text's parameters follow those of the parameters before them. -/
theorem get_ofPairs_append (ps qs : List (List Char × List Char)) (c : Category) :
    (ofPairs (ps ++ qs)).get c = (ofPairs ps).get c ++ (ofPairs qs).get c := by
  simp [ofPairs]

end RawFilters

end FacetFilter
