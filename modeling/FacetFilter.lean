import FacetFilter.Main
import FacetFilter.Proofs.Command.Apply
import FacetFilter.Proofs.Facet.Spelling
import FacetFilter.Proofs.Json.RoundTrip
import FacetFilter.Proofs.Panel.Toggle
import FacetFilter.Proofs.Query.Canonical
import FacetFilter.Proofs.Query.Filters
import FacetFilter.Proofs.Query.Parameters
import FacetFilter.Proofs.Query.Parts
import FacetFilter.Proofs.Query.Rendering
import FacetFilter.Proofs.Query.Sources
import FacetFilter.Proofs.Selection.Changes
import FacetFilter.Proofs.Session.Commits
import FacetFilter.Proofs.Session.Normal
import FacetFilter.Proofs.Session.Parity
import FacetFilter.Proofs.Session.Reload
import FacetFilter.Proofs.Session.Rounds
import FacetFilter.Selection.FiltersJson
import FacetFilter.Proofs.Facet.Toggle
import FacetFilter.Proofs.Command.Display
