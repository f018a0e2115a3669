import FacetFilter.Panel.Sections
import FacetFilter.Selection.MemberOrder

/-! Settings: the page to work on when none is named, the order of members and the sections
that are open at first. -/

namespace FacetFilter

structure Settings where
  baseUrl : String
  order : MemberOrder
  /-- All sections are open where nothing is set. -/
  sections? : Option Sections
deriving DecidableEq, Repr

namespace Settings

def default : Settings := ⟨"http://localhost:3000/", .sorted, none⟩

def sections (s : Settings) : Sections := s.sections?.getD .allOpen

end Settings

/-- The name of a member order in settings. -/
def MemberOrder.name : MemberOrder → String
  | .sorted => "sorted"
  | .insertion => "insertion"

end FacetFilter
