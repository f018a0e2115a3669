import FacetFilter.Query.Page

/-! Filter sessions. A session holds the selection that the page's URL carries, the baseline,
and a working selection that toggles change. A commit turns the working selection into a
request; the baseline stays until the session is started anew from the next page. While a
commit is in flight no other one is handed out. -/

namespace FacetFilter

structure Session where
  baseline : Selection
  working : Selection
  order : MemberOrder
  inFlight : Bool

namespace Session

/-- A session on the filters that a page carries. -/
def start (raw : RawFilters) (order : MemberOrder) : Session :=
  let baseline := Selection.ofRaw raw
  ⟨baseline, baseline, order, false⟩

/-- A session on the page with this URL. -/
def ofUrl (lib : UrlLibrary) (text : String) (order : MemberOrder) : Except UrlError Session :=
  (RawFilters.ofUrl lib text).map (start · order)

/-- The session goes on from another page; a commit in flight has come to its end. -/
def restart (s : Session) (raw : RawFilters) : Session := start raw s.order

/-- Flips a value, known to the counts or not, and tells whether it is chosen afterwards. -/
def toggle (s : Session) (c : Category) (value : String) : Bool × Session :=
  let (chosen, working) := s.working.toggle c value
  (chosen, { s with working })

def toggleAsn (s : Session) (n : AsNumber) : Bool × Session := s.toggle .asn n.text

def isSelected (s : Session) (c : Category) (value : String) : Bool := s.working.contains c value

/-- Whether the working selection differs, as sets, from the baseline. -/
def isDirty (s : Session) : Bool := !s.working.same s.baseline

/-- Whether a commit would be handed out. -/
def canCommit (s : Session) : Bool := s.isDirty && !s.inFlight

/-- The request for the working selection, empty when nothing has changed. -/
def commit (s : Session) : Request :=
  if s.isDirty then .ofSelection s.working s.order else .empty

/-- Hands out the request if a commit is possible now, which puts it in flight. -/
def handOut (s : Session) : Option Request × Session :=
  if s.canCommit then (some s.commit, { s with inFlight := true }) else (none, s)

/-- The commit in flight has come to its end without a new page. -/
def finish (s : Session) : Session := { s with inFlight := false }

end Session

end FacetFilter
