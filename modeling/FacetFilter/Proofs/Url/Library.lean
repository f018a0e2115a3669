import FacetFilter.Proofs.Url.Allowed
import FacetFilter.Text.Pieces
import FacetFilter.Url.Library
import Mathlib.Data.List.DropRight

/-! What is relied on of a library for URLs. No part of a URL begins the next one in its text; what
changes fragment or query leaves the other parts as they are, except that an opaque path loses the
spaces at the end of the text; and a URL that was made is accepted as it is written. -/

namespace FacetFilter

open Text (cut)

namespace UrlParts

/-- An opaque path at the end of a text does not end in spaces. -/
def withoutTrailingSpaces (p : UrlParts) : UrlParts :=
  if p.isOpaque = true ∧ p.query = none ∧ p.fragment = none then
    { p with front := p.front.rdropWhile (· == ' ') }
  else p

def withoutFragment (p : UrlParts) : UrlParts := { p with fragment := none }.withoutTrailingSpaces

def withQuery (p : UrlParts) (query? : Option (List Char)) : UrlParts :=
  { p with query := query? }.withoutTrailingSpaces

/-- Parts that are printable and cannot be taken for one another. -/
structure WellFormed (p : UrlParts) : Prop where
  front : ∀ c ∈ p.front, Url.beforeQuery c = true
  colon : ':' ∈ p.front
  query : ∀ q, p.query = some q → ∀ c ∈ q, Url.inQuery false c = true

namespace WellFormed

variable {p : UrlParts} {c : Char}

/-- Nothing before the fragment begins it. -/
theorem inRootless_beforeFragment (h : p.WellFormed)
    (hc : c ∈ p.front ++ introduced '?' p.query) : Url.inRootless c = true ∧ c ≠ '#' := by
  rcases List.mem_append.mp hc with hc | hc
  · have hin := Url.beforeQuery_iff.mp (h.front c hc)
    exact ⟨hin.1, hin.2.2⟩
  · cases hq : p.query with
    | none => simp [hq, introduced] at hc
    | some q =>
      rw [hq, introduced] at hc
      rcases List.mem_cons.mp hc with rfl | hc
      · decide
      · have hin := h.query q hq c hc
        refine ⟨Url.inRootless_of_inQuery hin, ?_⟩
        rintro rfl
        exact absurd hin (by decide)

theorem cut_front (h : p.WellFormed) :
    cut '?' (p.front ++ introduced '?' p.query) = (p.front, p.query) := by
  have hfront : '?' ∉ p.front := fun hm => absurd (h.front _ hm) (by decide)
  cases p.query with
  | none => simpa [introduced] using Text.cut_of_notMem hfront
  | some q => exact Text.cut_append_cons hfront q

theorem cut_chars (h : p.WellFormed) :
    cut '#' p.chars = (p.front ++ introduced '?' p.query, p.fragment) := by
  have hhash : '#' ∉ p.front ++ introduced '?' p.query := fun hm =>
    (h.inRootless_beforeFragment hm).2 rfl
  unfold chars
  cases p.fragment with
  | none => rw [introduced, List.append_nil, Text.cut_of_notMem hhash]
  | some f => rw [introduced, Text.cut_append_cons hhash]

/-- The query is what stands in the text after the first question mark and before the first number
sign. -/
theorem query_eq_cut (h : p.WellFormed) : p.query = (cut '?' (cut '#' p.chars).1).2 := by
  rw [h.cut_chars, h.cut_front]

/-- Without a fragment there are printable characters only. -/
theorem inRootless_chars (h : p.WellFormed) (hfragment : p.fragment = none) (hc : c ∈ p.chars) :
    Url.inRootless c = true := by
  have hchars : p.chars = p.front ++ introduced '?' p.query := by
    rw [chars, hfragment]
    exact List.append_nil _
  exact (h.inRootless_beforeFragment (hchars ▸ hc)).1

theorem colon_mem_chars (h : p.WellFormed) : ':' ∈ p.chars := by
  simp [chars, h.colon]

end WellFormed

end UrlParts

namespace UrlLibrary

/-- The characters that a query keeps in URLs of every kind. -/
def isPlain (c : Char) : Bool := c.isAlphanum || "*-._+%,&=".toList.contains c

/-- The URLs that come about: read from a text, or made from another one by taking its fragment, or
by setting a query of plain characters or none. -/
inductive Made (lib : UrlLibrary) : lib.Parsed → Prop where
  | parse {text : String} {u : lib.Parsed} : lib.parse text = .ok u → Made lib u
  | withoutFragment {u : lib.Parsed} : Made lib u → Made lib (lib.withoutFragment u)
  | withQuery {u : lib.Parsed} {query? : Option (List Char)} :
      Made lib u → (∀ q, query? = some q → ∀ c ∈ q, isPlain c = true) →
      Made lib (lib.withQuery u query?)

/-- A library that does with such URLs what it is meant to do. -/
structure Lawful (lib : UrlLibrary) : Prop where
  text_eq : ∀ u, lib.Made u → (lib.text u).toList = (lib.parts u).chars
  wellFormed : ∀ u, lib.Made u → (lib.parts u).WellFormed
  parts_withoutFragment : ∀ u, lib.Made u →
    lib.parts (lib.withoutFragment u) = (lib.parts u).withoutFragment
  parts_withQuery : ∀ u query?, lib.Made u → (∀ q, query? = some q → ∀ c ∈ q, isPlain c = true) →
    lib.parts (lib.withQuery u query?) = (lib.parts u).withQuery query?
  /-- Reading the text of a URL finds the query again. -/
  parse_text : ∀ u, lib.Made u →
    ∃ v, lib.parse (lib.text u) = .ok v ∧ (lib.parts v).query = (lib.parts u).query

end UrlLibrary

end FacetFilter
