import FacetFilter.Proofs.Query.Parameters

/-! A request rendered in two ways: as the text of a query, and as pairs of keys and values with
nothing escaped. The text is made of a few characters only, its escapes are whole and its separators
stand between members, between key and value and between parameters, and nowhere else. So reading
it gives the pairs. -/

namespace FacetFilter

open Text (commaJoined join length_pieces pieces)
open Text.FormEncoded
open Text.Percent (WellEscaped wellEscaped_join wellEscaped_of_notMem)

namespace Parameter

theorem wellEscaped_text (p : Parameter) : WellEscaped p.text := by
  have hkey : WellEscaped p.key.toList :=
    wellEscaped_of_notMem (Category.notMem_key (by decide))
  have hequals : WellEscaped ['='] := wellEscaped_of_notMem (by simp)
  refine hkey.append (hequals.append (wellEscaped_join (by decide) ?_))
  intro part hpart
  obtain ⟨m, -, rfl⟩ := List.mem_map.mp hpart
  exact wellEscaped_encode m.toList

theorem count_equals_text (p : Parameter) : p.text.count '=' = 1 := by
  have hmembers : '=' ∉ join ',' (p.members.map fun m => encode m.toList) := by
    intro h
    rcases Text.mem_join h with h | ⟨part, hpart, h⟩
    · cases h
    · exact notMem_of_mem_encoded (by decide) hpart h
  rw [text, List.count_append, List.count_cons_self, List.count_eq_zero.mpr p.equals_notMem_key,
    List.count_eq_zero.mpr hmembers]

theorem count_comma_text {p : Parameter} (h : p.members ≠ []) :
    p.text.count ',' + 1 = p.members.length := by
  have hkey : ',' ∉ p.key.toList := Category.notMem_key (by decide)
  have hpieces := congrArg List.length (pieces_value h)
  rw [length_pieces, List.length_map] at hpieces
  rw [text, List.count_append, List.count_cons_of_ne (by decide), List.count_eq_zero.mpr hkey,
    Nat.zero_add, hpieces]

end Parameter

namespace Request

theorem wellEscaped_query (r : Request) : WellEscaped r.query := by
  refine wellEscaped_join (by decide) fun part hpart => ?_
  obtain ⟨p, -, rfl⟩ := List.mem_map.mp hpart
  exact p.wellEscaped_text

theorem count_equals_query (r : Request) : r.query.count '=' = r.parameters.length := by
  rw [query, Text.count_join_of_ne (by decide), List.count_flatten, List.map_map]
  have hone : List.count '=' ∘ Parameter.text = fun _ => 1 := funext Parameter.count_equals_text
  simp [hone]

theorem count_ampersand_query (r : Request) :
    r.query.count '&' = r.parameters.length - 1 := by
  by_cases h : r.parameters = []
  · rw [query_eq_nil_iff.mpr h, h]
    rfl
  · have hpieces := congrArg List.length (pieces_query h)
    rw [length_pieces, List.length_map] at hpieces
    rw [← hpieces]
    rfl

theorem get?_eq_some_iff {r : Request} (h : (r.parameters.map Parameter.category).Nodup)
    {key value : String} : r.get? key = some value ↔ (key, value) ∈ r.pairs := by
  rw [get?, Option.map_eq_some_iff, pairs, List.mem_map]
  constructor
  · rintro ⟨p, hp, rfl⟩
    have hkey : p.key = key := by simpa using List.find?_some hp
    exact ⟨p, List.mem_of_find?_eq_some hp, by rw [hkey]⟩
  · rintro ⟨p, hp, hpair⟩
    obtain ⟨rfl, rfl⟩ := Prod.mk.inj hpair
    cases hfind : r.parameters.find? (·.key == p.key) with
    | none => exact absurd (List.find?_eq_none.mp hfind p hp) (by simp)
    | some q =>
      have hkey : q.key = p.key := by simpa using List.find?_some hfind
      have hcategory : q.category = p.category := Category.key_injective hkey
      have hq : q = p :=
        List.inj_on_of_nodup_map h (List.mem_of_find?_eq_some hfind) hp hcategory
      exact ⟨q, rfl, by rw [hq]⟩

theorem nodup_categories (s : Selection) (o : MemberOrder) :
    ((ofSelection s o).parameters.map Parameter.category).Nodup := by
  have hall : Category.all.Nodup := by decide
  rw [categories_ofSelection]
  exact hall.filter _

/-- The pairs of a selection's request: the categories with a choice, and their members in order. -/
theorem pairs_ofSelection (s : Selection) (o : MemberOrder) :
    (ofSelection s o).pairs = (Category.all.filter fun c => !(s.get c).isEmpty).map fun c =>
      (c.key, commaJoined ((s.get c).ordered c o)) := by
  rw [← categories_ofSelection s o, List.map_map, pairs]
  refine List.map_congr_left fun p hp => ?_
  rw [Parameter.value, (mem_parameters.mp hp).2]
  rfl

theorem isAlphanum_or_mem_of_mem_query {r : Request} {x : Char} (h : x ∈ r.query) :
    x.isAlphanum = true ∨ x ∈ "*-._+%,&=".toList := by
  rcases mem_query h with hwritten | rfl | rfl | rfl
  · simp only [isWritten, keeps, Bool.or_eq_true, beq_iff_eq] at hwritten
    rcases hwritten with (((((h | rfl) | rfl) | rfl) | rfl) | rfl) | rfl
    · exact Or.inl h
    all_goals exact Or.inr (by decide)
  all_goals exact Or.inr (by decide)

/-- The query of a selection's request consists of ASCII letters and digits and a few signs, and a
percent sign always begins an escape with upper-case digits. There is one `=` to each parameter,
and `&` and `,` stand between parameters and between members only. Reading the query as
form-urlencoded text gives the pairs of the request, in order: the key of each category with a
choice, and its members joined by commas with nothing escaped. A key is looked up among them. -/
theorem query_renders_pairs (s : Selection) (o : MemberOrder) :
    let r := ofSelection s o
    (∀ x ∈ r.query, x.isAlphanum = true ∨ x ∈ "*-._+%,&=".toList) ∧
    (∀ before after, r.query = before ++ '%' :: after →
      ∃ high low rest, after = high :: low :: rest ∧ Text.Percent.isUpperDigit high = true ∧
        Text.Percent.isUpperDigit low = true) ∧
    r.query.count '=' = r.parameters.length ∧
    r.query.count '&' = r.parameters.length - 1 ∧
    (r.parameters ≠ [] → pieces '&' r.query = r.parameters.map Parameter.text) ∧
    (∀ p ∈ r.parameters, p.text.count '=' = 1 ∧ p.text.count ',' + 1 = p.members.length) ∧
    Text.FormEncoded.pairs r.query = r.pairs.map (fun (key, value) => (key.toList, value.toList)) ∧
    r.pairs = (Category.all.filter fun c => !(s.get c).isEmpty).map (fun c =>
      (c.key, commaJoined ((s.get c).ordered c o))) ∧
    (∀ key value, r.get? key = some value ↔ (key, value) ∈ r.pairs) ∧
    ∀ key, r.get? key = none ↔ ∀ pair ∈ r.pairs, pair.1 ≠ key := by
  intro r
  have hget : ∀ key value, r.get? key = some value ↔ (key, value) ∈ r.pairs := fun _ _ =>
    get?_eq_some_iff (nodup_categories s o)
  refine ⟨fun _ => isAlphanum_or_mem_of_mem_query, wellEscaped_query r, count_equals_query r,
    count_ampersand_query r, pieces_query, fun p hp => ?_, pairs_query r, pairs_ofSelection s o,
    hget, fun key => ?_⟩
  · exact ⟨p.count_equals_text, Parameter.count_comma_text (members_ne_nil hp)⟩
  · simp only [Option.eq_none_iff_forall_ne_some, ne_eq, hget, Prod.forall]
    constructor
    · rintro h key' value hmem rfl
      exact h value hmem
    · exact fun h value hmem => h key value hmem rfl

/-- Separators inside members do not show in the query, and a comma inside a member cannot be told
from one between members in the value that is read. -/
theorem query_renders_pairs_separators :
    let s := Selection.ofRaw ⟨["US"], [], ["ms sql", "R&D=1,é%"]⟩
    let r := ofSelection s .insertion
    let services : Parameter := ⟨.service, ["ms sql", "R&D=1,é%"]⟩
    services ∈ r.parameters ∧ services.text.count '=' = 1 ∧ services.text.count ',' + 1 = 2 ∧
      r.query.count '=' = 2 ∧ r.query.count '&' = 1 ∧ r.get? "asns" = none ∧
      r.get? "services" = some "ms sql,R&D=1,é%" ∧
      Text.FormEncoded.pairs r.query =
        [("countries".toList, "US".toList), ("services".toList, "ms sql,R&D=1,é%".toList)] := by
  intro s r services
  have hcountries : (s.get .country).inArrivalOrder = ["US"] := by
    rw [Selection.get_ofRaw (by decide), MemberSet.inArrivalOrder_ofList (by decide)]
    rfl
  have hservices : (s.get .service).inArrivalOrder = ["ms sql", "R&D=1,é%"] := by
    rw [Selection.get_ofRaw (by decide), MemberSet.inArrivalOrder_ofList (by decide)]
    rfl
  have hchosen : (Category.all.filter fun c => !(s.get c).isEmpty) = [.country, .service] := by
    decide +kernel
  have hmem : services ∈ r.parameters := mem_parameters.mpr ⟨by decide +kernel, hservices.symm⟩
  obtain ⟨-, -, hequals, hampersands, -, hcounts, hread, hpairs, hget, hnone⟩ :=
    query_renders_pairs s .insertion
  have htwo : r.parameters.length = 2 := by
    rw [← List.length_map Parameter.category, categories_ofSelection, hchosen]
    rfl
  have hboth : r.pairs = [("countries", "US"), ("services", "ms sql,R&D=1,é%")] := by
    rw [hpairs, hchosen, List.map_cons, List.map_singleton, MemberSet.ordered, MemberSet.ordered,
      hcountries, hservices]
    decide
  obtain ⟨hequal, hcomma⟩ := hcounts services hmem
  refine ⟨hmem, hequal, hcomma, hequals.trans htwo, ?_, (hnone "asns").mpr ?_, (hget _ _).mpr ?_, ?_⟩
  · rw [hampersands, htwo]
  · rw [hboth]
    decide
  · rw [hboth]
    decide
  · rw [hread, hboth]
    rfl

end Request

end FacetFilter
