import FacetFilter.Selection.MemberOrder

/-! Selections: one member set for each category, holding normal forms only. Filters that
come from outside are lists in which anything may stand; blank values are passed over, the
others are trimmed and AS values take their canonical form. -/

namespace FacetFilter

/-- Filters as a source lists them, before any normalization. -/
abbrev RawFilters := PerCategory (List String)

def RawFilters.none : RawFilters := ⟨[], [], []⟩

/-- The form in which a value is stored; a blank value has none. -/
def normalForm? (c : Category) (value : String) : Option String :=
  let trimmed := Text.trimmed value
  if trimmed.isEmpty then .none
  else match c with
    | .asn => some (AsNumber.canonical trimmed)
    | .country | .service => some trimmed

/-- The values chosen in each category. -/
abbrev Selection := PerCategory MemberSet

namespace Selection

def empty : Selection := ⟨.empty, .empty, .empty⟩

def ofRaw (raw : RawFilters) : Selection :=
  .ofFun fun c => .ofList ((raw.get c).filterMap (normalForm? c))

/-- Flips a value and tells whether it is chosen afterwards; a blank value does nothing. -/
def toggle (s : Selection) (c : Category) (value : String) : Bool × Selection :=
  match normalForm? c value with
  | some v =>
    let (chosen, members) := (s.get c).toggle v
    (chosen, s.set c members)
  | none => (false, s)

def contains (s : Selection) (c : Category) (value : String) : Bool :=
  (normalForm? c value).any (s.get c).contains

def isEmpty (s : Selection) : Bool := Category.all.all fun c => (s.get c).isEmpty

/-- Equality as sets in every category. -/
def same (a b : Selection) : Bool := Category.all.all fun c => (a.get c).same (b.get c)

/-- The members of every category in one order. -/
def listed (s : Selection) (o : MemberOrder) : RawFilters :=
  .ofFun fun c => (s.get c).ordered c o

/-- A toggle tells what `contains` says of the value afterwards. -/
theorem toggle_fst (s : Selection) (c : Category) (value : String) :
    (s.toggle c value).1 = (s.toggle c value).2.contains c value := by
  unfold toggle contains
  cases normalForm? c value with
  | none => rfl
  | some v => simp [MemberSet.toggle_fst]

/-- Categories are independent. -/
theorem get_toggle_of_ne (s : Selection) {c d : Category} (value : String) (h : d ≠ c) :
    (s.toggle c value).2.get d = s.get d := by
  unfold toggle
  cases normalForm? c value with
  | none => rfl
  | some v => simp [h]

end Selection

end FacetFilter
