import FacetFilter.Json.Decode
import FacetFilter.Json.Writer
import FacetFilter.Selection.State

/-! Filters listed in a JSON document, and written as one. -/

namespace FacetFilter.RawFilters

open FacetFilter.Json

/-- The list of one category, which may be missing. -/
def field (c : Category) : RecordField (List String) := ⟨c.key, list string, some []⟩

def decoder : Decoder RawFilters := fun node =>
  (record "struct InitialSelection" (field .country) (field .asn) (field .service) node).map
    fun (countries, asns, services) => ⟨countries, asns, services⟩

def ofJson (text : String) : Except Problem RawFilters := decode decoder text

def jsonChars (raw : RawFilters) : List Char :=
  objectChars (Category.all.map fun c => (c.key, arrayChars ((raw.get c).map stringChars)))

def json (raw : RawFilters) : String := String.ofList raw.jsonChars

end FacetFilter.RawFilters
