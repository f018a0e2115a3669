import FacetFilter.Command.Report
import FacetFilter.Facet.CountsJson
import FacetFilter.Panel.View
import FacetFilter.Text.Columns

/-! Showing the filters of a page: a line for each category, and where counts are given the
panel below them. -/

namespace FacetFilter.Display

/-- The filters of a category; a dash stands for none. -/
def filterLine (s : Session) (order : MemberOrder) (c : Category) : String :=
  let members := (s.baseline.get c).ordered c order
  Text.padRight 10 c.key ++ " " ++ (if members.isEmpty then "-" else Text.commaJoined members)

def filterLines (s : Session) (order : MemberOrder) : List String :=
  Category.all.map (filterLine s order)

def rowLine (r : Row) : String :=
  "  " ++ (if r.checked then "[x]" else "[ ]") ++ " " ++ Text.padRight 10 r.value ++ " " ++
    Text.padRight 32 r.label ++ " " ++ Text.padLeft 8 r.count.toNat.repr

/-- A section after an empty line. -/
def sectionLines (s : Section) : List String :=
  let title := s.category.title.toUpper
  if s.isOpen then "" :: title :: s.rows.map rowLine else ["", title ++ " (collapsed)"]

def panelLines (p : Panel) : List String := p.sections.flatMap sectionLines

/-- The lines for a page. Those of the filters stand even where the counts cannot be read. -/
def run (lib : UrlLibrary) (url : String) (order : MemberOrder) (opened : Sections)
    (counts? : Option (String × FileContent)) : Report :=
  match Session.ofUrl lib url order with
  | .error e => .failed (.badUrl e)
  | .ok session =>
    let filters := filterLines session order
    match counts? with
    | none => ⟨filters, [], none⟩
    | some (path, content) =>
      match content.text with
      | .error e => ⟨filters, [], some (.countsUnreadable path e)⟩
      | .ok text =>
        match Counts.ofJson text with
        | .error _ => ⟨filters, [], some (.countsInvalid path)⟩
        | .ok counts => ⟨filters ++ panelLines (.build counts session opened), [], none⟩

end FacetFilter.Display
