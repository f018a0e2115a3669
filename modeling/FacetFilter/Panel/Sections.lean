import FacetFilter.Facet.Category

/-! Which sections of the panel are open. -/

namespace FacetFilter

/-- Whether each section shows its rows. -/
abbrev Sections := PerCategory Bool

namespace Sections

def allOpen : Sections := ⟨true, true, true⟩

/-- Opens or closes one section, and tells whether it is open afterwards. -/
def toggle (s : Sections) (c : Category) : Bool × Sections := (!s.get c, s.set c (!s.get c))

end Sections

end FacetFilter
