import FacetFilter.Text.Blank
import FacetFilter.Text.Quoted

/-! The three facets a search page can be filtered by, their names in queries, arguments and
headings, and one value for each of them. -/

namespace FacetFilter

inductive Category where
  | country
  | asn
  | service
deriving DecidableEq, Repr

namespace Category

/-- In the order in which a query names them and a panel shows them. -/
def all : List Category := [.country, .asn, .service]

/-- The name of the query parameter. -/
def key : Category → String
  | .country => "countries"
  | .asn => "asns"
  | .service => "services"

/-- The heading of the panel section. -/
def title : Category → String
  | .country => "Country"
  | .asn => "ASN"
  | .service => "Service"

/-- The category whose parameter has exactly this name. -/
def ofKey? (key : String) : Option Category := all.find? (·.key == key)

/-- The category of a singular or plural name in lower case. -/
def ofLowerName? (name : String) : Option Category :=
  if name = "country" ∨ name = "countries" then some .country
  else if name = "asn" ∨ name = "asns" then some .asn
  else if name = "service" ∨ name = "services" then some .service
  else none

/-- The category a user names: blanks around the name and the case of ASCII letters do not
matter. -/
def ofName? (name : String) : Option Category :=
  ofLowerName? (String.ofList ((Text.trim name.toList).map Char.toLower))

theorem mem_all (c : Category) : c ∈ all := by cases c <;> decide

theorem ofKey?_key (c : Category) : ofKey? c.key = some c := by cases c <;> rfl

theorem key_injective {a b : Category} (h : a.key = b.key) : a = b := by
  have := congrArg ofKey? h
  rwa [ofKey?_key, ofKey?_key, Option.some.injEq] at this

theorem ofName?_key (c : Category) : ofName? c.key = some c := by cases c <;> decide

end Category

/-- One value for each category. -/
structure PerCategory (α : Type) where
  countries : α
  asns : α
  services : α
deriving DecidableEq, Repr

namespace PerCategory

variable {α β : Type}

def get (p : PerCategory α) : Category → α
  | .country => p.countries
  | .asn => p.asns
  | .service => p.services

/-- The values of a function on categories. -/
def ofFun (f : Category → α) : PerCategory α := ⟨f .country, f .asn, f .service⟩

/-- Another value for one category. -/
def set (p : PerCategory α) (c : Category) (a : α) : PerCategory α :=
  match c with
  | .country => { p with countries := a }
  | .asn => { p with asns := a }
  | .service => { p with services := a }

@[simp] theorem get_ofFun (f : Category → α) (c : Category) : (ofFun f).get c = f c := by
  cases c <;> rfl

@[simp] theorem get_set_self (p : PerCategory α) (c : Category) (a : α) :
    (p.set c a).get c = a := by cases c <;> rfl

@[simp] theorem get_set_of_ne (p : PerCategory α) {c d : Category} (a : α) (h : d ≠ c) :
    (p.set c a).get d = p.get d := by cases c <;> cases d <;> first | rfl | exact absurd rfl h

/-- Two collections are equal when they agree on every category. -/
theorem ext_get {p q : PerCategory α} (h : ∀ c, p.get c = q.get c) : p = q := by
  cases p; cases q
  simpa [get] using And.intro (h .country) (And.intro (h .asn) (h .service))

end PerCategory

end FacetFilter
