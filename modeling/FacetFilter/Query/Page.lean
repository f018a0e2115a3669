import FacetFilter.Query.Filters
import FacetFilter.Query.Request
import FacetFilter.Url.Library

/-! Search pages: the filters that the URL of a page carries, and the URL that a request leads
to from there. -/

namespace FacetFilter

namespace UrlLibrary

/-- The page that a text names by its URL. -/
def page (lib : UrlLibrary) (text : String) : Except UrlError lib.Parsed :=
  (lib.parse text).mapError (⟨text, ·⟩)

/-- The filters in the query. -/
def filters (lib : UrlLibrary) (u : lib.Parsed) : RawFilters :=
  .ofQuery ((lib.parts u).query.getD [])

/-- The same page asked with a request: the fragment goes, and the query becomes that of the
request, or none when nothing is asked for. -/
def target (lib : UrlLibrary) (u : lib.Parsed) (r : Request) : lib.Parsed :=
  lib.withQuery (lib.withoutFragment u) (if r.isEmpty then none else some r.query)

end UrlLibrary

/-- The filters that the URL of a page carries. -/
def RawFilters.ofUrl (lib : UrlLibrary) (text : String) : Except UrlError RawFilters :=
  (lib.page text).map lib.filters

end FacetFilter
