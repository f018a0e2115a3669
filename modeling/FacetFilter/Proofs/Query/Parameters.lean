import FacetFilter.Proofs.Query.Canonical

/-! The parameters of a selection's request. There is one for each category with a choice, in the
order of the categories, and it holds the members of its category, each of them once. Members are
normal forms, so cutting the query at its separators finds no empty part. -/

namespace FacetFilter

open Text (join pieces)
open Text.FormEncoded

namespace Parameter

/-- Commas stand in a parameter only between its members. -/
theorem pieces_value {p : Parameter} (h : p.members ≠ []) :
    pieces ',' (join ',' (p.members.map fun m => encode m.toList)) =
      p.members.map fun m => encode m.toList :=
  List.splitOn_intercalate ',' (fun _ => notMem_of_mem_encoded (by decide)) (by simpa using h)

end Parameter

namespace Request

/-- A request that asks for a selection and for nothing else. -/
structure AsksFor (r : Request) (s : Selection) : Prop where
  categories :
    r.parameters.map Parameter.category = Category.all.filter fun c => !(s.get c).isEmpty
  members_ne_nil : ∀ p ∈ r.parameters, p.members ≠ []
  nodup_members : ∀ p ∈ r.parameters, p.members.Nodup
  trim_ne_nil : ∀ p ∈ r.parameters, ∀ m ∈ p.members, Text.trim m.toList ≠ []
  mem_members : ∀ p ∈ r.parameters, ∀ m, m ∈ p.members ↔ m ∈ (s.get p.category).members
  /-- Every part of the query names a category and lists values that are not blank. -/
  query_parts : r.query ≠ [] → ∀ part ∈ pieces '&' r.query, ∃ c : Category, ∃ value,
    part = c.key.toList ++ '=' :: value ∧ ∀ piece ∈ pieces ',' value, Text.trim (decode piece) ≠ []
  isEmpty_iff : r.isEmpty = true ↔ ∀ c, (s.get c).members = []

variable {s : Selection} {o : MemberOrder}

theorem mem_parameters {p : Parameter} :
    p ∈ (ofSelection s o).parameters ↔
      (s.get p.category).isEmpty = false ∧ p.members = (s.get p.category).ordered p.category o := by
  rw [ofSelection, List.mem_filterMap]
  constructor
  · rintro ⟨c, -, hc⟩
    split at hc
    · cases hc
    · next hempty =>
      cases hc
      exact ⟨Bool.eq_false_iff.mpr hempty, rfl⟩
  · rintro ⟨hempty, hmembers⟩
    refine ⟨p.category, Category.mem_all _, ?_⟩
    rw [hempty, ← hmembers]
    rfl

theorem categories_ofSelection (s : Selection) (o : MemberOrder) :
    (ofSelection s o).parameters.map Parameter.category =
      Category.all.filter fun c => !(s.get c).isEmpty := by
  rw [ofSelection, List.map_filterMap, ← List.filterMap_eq_filter]
  refine List.filterMap_congr fun c _ => ?_
  cases h : (s.get c).isEmpty <;> simp [Option.guard, h]

/-- Ampersands stand in a query only between its parameters. -/
theorem pieces_query {r : Request} (h : r.parameters ≠ []) :
    pieces '&' r.query = r.parameters.map Parameter.text :=
  List.splitOn_intercalate '&' r.ampersand_notMem_texts (by simpa using h)

theorem mem_members_iff {p : Parameter} (h : p ∈ (ofSelection s o).parameters) (m : String) :
    m ∈ p.members ↔ m ∈ (s.get p.category).members := by
  rw [(mem_parameters.mp h).2]
  exact Selection.mem_ordered

/-- No member of a selection of normal forms is blank. -/
theorem trim_ne_nil_of_mem (hs : s.Normal) {p : Parameter}
    (h : p ∈ (ofSelection s o).parameters) {m : String} (hm : m ∈ p.members) :
    Text.trim m.toList ≠ [] :=
  (normalForm?_eq_some_iff.mp (hs _ m ((mem_members_iff h m).mp hm))).1

/-- The request for a selection of normal forms asks for this selection and for nothing else. -/
theorem asksFor_ofSelection (hs : s.Normal) (o : MemberOrder) : (ofSelection s o).AsksFor s where
  categories := categories_ofSelection s o
  members_ne_nil _ := members_ne_nil
  nodup_members p hp := by
    rw [(mem_parameters.mp hp).2]
    exact MemberSet.nodup_ordered _ _ _
  trim_ne_nil _ hp _ := trim_ne_nil_of_mem hs hp
  mem_members _ := mem_members_iff
  query_parts hne part hpart := by
    rw [pieces_query fun hnil => hne (query_eq_nil_iff.mpr hnil)] at hpart
    obtain ⟨p, hp, rfl⟩ := List.mem_map.mp hpart
    refine ⟨p.category, _, rfl, fun piece hpiece => ?_⟩
    rw [Parameter.pieces_value (members_ne_nil hp)] at hpiece
    obtain ⟨m, hm, rfl⟩ := List.mem_map.mp hpiece
    rw [decode_encode]
    exact trim_ne_nil_of_mem hs hp hm
  isEmpty_iff := by
    rw [isEmpty_ofSelection, Selection.isEmpty, List.all_eq_true]
    exact ⟨fun h c => MemberSet.isEmpty_iff.mp (h c (Category.mem_all c)),
      fun h c _ => MemberSet.isEmpty_iff.mpr (h c)⟩

end Request

end FacetFilter
