import FacetFilter.Facet.Counts
import FacetFilter.Panel.Sections
import FacetFilter.Session

/-! The filter panel: rows with check marks and counts, and the apply button. All of it is
derived from the counts, the session and the open sections. -/

namespace FacetFilter

/-- One line to check; `value` is what a click toggles. -/
structure Row where
  category : Category
  value : String
  label : String
  count : UInt64
  checked : Bool
deriving DecidableEq, Repr

/-- A closed section has no rows. -/
structure Section where
  category : Category
  isOpen : Bool
  rows : List Row
deriving DecidableEq, Repr

inductive ApplyButton where
  /-- There is nothing to apply. -/
  | hidden
  | ready
  /-- A commit is in flight. -/
  | busy
deriving DecidableEq, Repr

namespace ApplyButton

def ofSession (s : Session) : ApplyButton :=
  if !s.isDirty then .hidden else if s.inFlight then .busy else .ready

def label? : ApplyButton → Option String
  | .hidden => none
  | .ready => some "Apply Filters"
  | .busy => some "Applying Filters..."

end ApplyButton

structure Panel where
  sections : List Section
  apply : ApplyButton
  busy : Bool
deriving DecidableEq, Repr

namespace Panel

/-- The values that the counts list for a category, with label and count. -/
def listed (counts : Counts) : Category → List (String × String × UInt64)
  | .country => counts.countries.map fun e => (e.code, e.name, e.count)
  | .asn => counts.asns.map fun e => (e.code.text, e.name, e.count)
  | .service => counts.services.map fun e => (e.name, e.name, e.count)

/-- The rows of a category in the order of the counts. -/
def rows (counts : Counts) (s : Session) (c : Category) : List Row :=
  (listed counts c).map fun (value, label, count) =>
    ⟨c, value, label, count, s.isSelected c value⟩

def build (counts : Counts) (s : Session) (opened : Sections) : Panel where
  sections := Category.all.map fun c =>
    ⟨c, opened.get c, if opened.get c then rows counts s c else []⟩
  apply := .ofSession s
  busy := s.inFlight

/-- The button is ready exactly when a commit would be handed out. -/
theorem ofSession_eq_ready_iff (s : Session) :
    ApplyButton.ofSession s = .ready ↔ s.canCommit = true := by
  unfold ApplyButton.ofSession Session.canCommit
  cases s.isDirty <;> cases s.inFlight <;> simp

end Panel

end FacetFilter
