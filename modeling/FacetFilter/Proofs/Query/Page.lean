import FacetFilter.Proofs.Query.RoundTrip
import FacetFilter.Proofs.Text.Reading
import FacetFilter.Proofs.Url.Reader
import FacetFilter.Query.Page

/-! Pages that requests lead to. With a lawful library for URLs, whatever page a request is made
from, the URL it leads to is that of the page with the request's query and without the fragment, it
is accepted again, and the filters that it carries are those of the request's query. -/

namespace FacetFilter

namespace Request

theorem isPlain_of_keeps {c : Char} (h : Text.FormEncoded.keeps c = true) :
    UrlLibrary.isPlain c = true :=
  of_ascii (q := UrlLibrary.isPlain) (fun _ => Text.FormEncoded.toNat_lt_of_keeps)
    (by decide +kernel) h

/-- A request's query is plain. -/
theorem isPlain_of_mem_query {r : Request} {c : Char} (h : c ∈ r.query) :
    UrlLibrary.isPlain c = true := by
  rcases mem_query h with h | rfl | rfl | rfl
  · simp only [Text.FormEncoded.isWritten, Bool.or_eq_true, beq_iff_eq] at h
    rcases h with (h | rfl) | rfl
    · exact isPlain_of_keeps h
    all_goals decide
  all_goals decide

theorem query_eq_nil_of_isEmpty {r : Request} (h : r.isEmpty = true) : r.query = [] :=
  query_eq_nil_iff.mpr (List.isEmpty_iff.mp h)

/-- The query of the page that the request leads to. -/
def query? (r : Request) : Option (List Char) := if r.isEmpty then none else some r.query

theorem query?_eq_none_iff {r : Request} : r.query? = none ↔ r.isEmpty = true := by
  unfold query?
  split <;> simp_all

theorem isPlain_of_mem_query? {r : Request} :
    ∀ q, r.query? = some q → ∀ c ∈ q, UrlLibrary.isPlain c = true := by
  intro q hq
  unfold query? at hq
  split at hq
  · cases hq
  · cases hq
    exact fun c => isPlain_of_mem_query

/-- Without a query a page is asked for nothing. -/
theorem getD_query? (r : Request) : r.query?.getD [] = r.query := by
  unfold query?
  split
  · next h => rw [query_eq_nil_of_isEmpty h, Option.getD_none]
  · rfl

end Request

namespace UrlParts

/-- What is left of the front when nothing but an opaque path is left at the end. -/
def frontBefore (p : UrlParts) (query? : Option (List Char)) : List Char :=
  if p.isOpaque = true ∧ (p.query = none ∨ query? = none) then p.front.rdropWhile (· == ' ')
  else p.front

/-- Another query in the place of query and fragment. -/
theorem withQuery_withoutFragment (p : UrlParts) (query? : Option (List Char)) :
    p.withoutFragment.withQuery query? = ⟨p.frontBefore query?, p.isOpaque, query?, none⟩ := by
  have htwice : (p.front.rdropWhile (· == ' ')).rdropWhile (· == ' ') =
      p.front.rdropWhile (· == ' ') := List.rdropWhile_idempotent _ _
  unfold withQuery withoutFragment withoutTrailingSpaces frontBefore
  by_cases hrootless : p.isOpaque = true
  · by_cases hquery : p.query = none
    · by_cases hasked : query? = none
      · simp [hrootless, hquery, hasked, htwice]
      · simp [hrootless, hquery, hasked]
    · by_cases hasked : query? = none
      · simp [hrootless, hquery, hasked]
      · simp [hrootless, hquery, hasked]
  · simp [hrootless]

end UrlParts

namespace UrlLibrary

variable {lib : UrlLibrary} {u : lib.Parsed}

theorem page_eq_ok_iff {text : String} : lib.page text = .ok u ↔ lib.parse text = .ok u := by
  unfold page
  cases lib.parse text <;> simp [Except.mapError]

theorem made_of_page {text : String} (h : lib.page text = .ok u) : lib.Made u :=
  .parse (page_eq_ok_iff.mp h)

theorem target_eq (u : lib.Parsed) (r : Request) :
    lib.target u r = lib.withQuery (lib.withoutFragment u) r.query? := rfl

theorem Made.target (h : lib.Made u) (r : Request) : lib.Made (lib.target u r) :=
  h.withoutFragment.withQuery Request.isPlain_of_mem_query?

namespace Lawful

/-- The target of a request is the page with another query and without its fragment. -/
theorem parts_target_eq (hlib : lib.Lawful) (h : lib.Made u) (r : Request) :
    lib.parts (lib.target u r) = (lib.parts u).withoutFragment.withQuery r.query? := by
  rw [target_eq, hlib.parts_withQuery _ _ h.withoutFragment Request.isPlain_of_mem_query?,
    hlib.parts_withoutFragment u h]

theorem parts_target (hlib : lib.Lawful) (h : lib.Made u) (r : Request) :
    lib.parts (lib.target u r) =
      ⟨(lib.parts u).frontBefore r.query?, (lib.parts u).isOpaque, r.query?, none⟩ := by
  rw [hlib.parts_target_eq h, UrlParts.withQuery_withoutFragment]

/-- The page that a request leads to from an accepted page is accepted, and it has the query of
the request. -/
theorem page_target (hlib : lib.Lawful) (h : lib.Made u) (r : Request) :
    ∃ v, lib.page (lib.text (lib.target u r)) = .ok v ∧ (lib.parts v).query = r.query? := by
  obtain ⟨v, hv, hquery⟩ := hlib.parse_text _ (h.target r)
  rw [hlib.parts_target h] at hquery
  exact ⟨v, page_eq_ok_iff.mpr hv, hquery⟩

/-- It carries the filters of the request's query. -/
theorem ofUrl_target (hlib : lib.Lawful) (h : lib.Made u) (r : Request) :
    RawFilters.ofUrl lib (lib.text (lib.target u r)) = .ok (.ofQuery r.query) := by
  obtain ⟨v, hv, hquery⟩ := hlib.page_target h r
  rw [RawFilters.ofUrl, hv, Except.map, filters, hquery, r.getD_query?]

end Lawful

/-- A request for a selection passes through the URL of any accepted page. The URL that it leads to
is the page's, but for the fragment, which is gone, for the query, which is that of the request or
absent when that is empty, and for spaces at the end of an opaque path. Its text is accepted, and
carries the filters of the request's query. -/
theorem request_through_target (hlib : lib.Lawful) {text : String} (h : lib.page text = .ok u)
    (s : Selection) (o : MemberOrder) :
    let r := Request.ofSelection s o
    let page := lib.parts u
    let target := lib.target u r
    lib.parts target =
      { front :=
          if page.isOpaque = true ∧ (page.query = none ∨ r.isEmpty = true) then
            page.front.rdropWhile (· == ' ')
          else page.front
        isOpaque := page.isOpaque
        query := if r.isEmpty then none else some r.query
        fragment := none } ∧
    (lib.text target).toList = (lib.parts target).chars ∧
    RawFilters.ofUrl lib (lib.text target) = .ok (.ofQuery r.query) := by
  intro r page target
  have hpage := made_of_page h
  refine ⟨?_, hlib.text_eq _ (hpage.target r), hlib.ofUrl_target hpage r⟩
  rw [hlib.parts_target hpage, UrlParts.frontBefore]
  simp only [Request.query?_eq_none_iff]
  rfl

/-- Separators, quotes and blanks in members stay in the query, even where the path of the page is
text without structure. -/
theorem request_through_target_opaque :
    let s := Selection.ofRaw ⟨[], ["7"], ["a#b?c'd\"e", "é &\n="]⟩
    let r := Request.ofSelection s .sorted
    ∃ u, Url.asciiLibrary.page "mailto:me@rigour.example  #top" = .ok u ∧
      (Url.asciiLibrary.parts u).fragment = some "top".toList ∧
      Url.asciiLibrary.parts (Url.asciiLibrary.target u r) =
        ⟨"mailto:me@rigour.example".toList, true, some r.query, none⟩ ∧
      RawFilters.ofUrl Url.asciiLibrary (Url.asciiLibrary.text (Url.asciiLibrary.target u r)) =
        .ok (.ofQuery r.query) := by
  intro s r
  have hpage : (Url.asciiLibrary.page "mailto:me@rigour.example  #top").toOption.map
      Url.asciiLibrary.parts =
        some ⟨"mailto:me@rigour.example  ".toList, true, none, some "top".toList⟩ := by
    decide +kernel
  obtain ⟨u, hu, hparts⟩ := Text.exists_eq_ok_of_toOption hpage
  obtain ⟨htarget, -, hfilters⟩ := request_through_target Url.lawful_asciiLibrary hu s .sorted
  have hsome : r.isEmpty = false := by decide +kernel
  refine ⟨u, hu, by rw [hparts], ?_, hfilters⟩
  rw [htarget, hparts, hsome]
  rfl

end UrlLibrary

end FacetFilter
