import FacetFilter.Proofs.Text.FormEncoded
import FacetFilter.Proofs.Text.Pieces
import FacetFilter.Query.Request

/-! The query of a request is clean text, and its parameters can be read off it: no character
of a member leaks out of its escaped form, so the only separators are those between members,
between key and value and between parameters. -/

namespace FacetFilter

open Text (join mem_join)
open Text.FormEncoded

theorem Category.keeps_of_mem_key {c : Category} {x : Char} (h : x ∈ c.key.toList) :
    keeps x = true := by
  have all : ∀ c : Category, c.key.toList.all keeps = true := by
    intro c
    cases c <;> decide
  exact List.all_eq_true.mp (all c) x h

theorem Category.notMem_key {c : Category} {x : Char} (h : keeps x = false) :
    x ∉ c.key.toList := by
  intro hm
  rw [Category.keeps_of_mem_key hm] at h
  exact absurd h (by decide)

/-- No separator comes from inside an escaped member. -/
theorem notMem_of_mem_encoded {sep : Char} (h : isWritten sep = false) {ms : List String}
    {part : List Char} (hpart : part ∈ ms.map fun m => encode m.toList) : sep ∉ part := by
  obtain ⟨m, -, rfl⟩ := List.mem_map.mp hpart
  exact notMem_encode h m.toList

namespace Parameter

variable {p : Parameter}

theorem toList_value (p : Parameter) : p.value.toList = join ',' (p.members.map String.toList) := by
  rw [value, Text.commaJoined, String.toList_ofList]

theorem equals_notMem_key (p : Parameter) : '=' ∉ p.key.toList := Category.notMem_key (by decide)

/-- The members as they stand in a query. -/
theorem join_encode_members (p : Parameter) :
    join ',' (p.members.map fun m => encode m.toList) =
      join ',' ((p.members.map String.toList).map encode) := by
  rw [List.map_map]
  rfl

theorem mem_text {x : Char} (h : x ∈ p.text) : isWritten x = true ∨ x = '=' ∨ x = ',' := by
  rw [text, List.mem_append, List.mem_cons] at h
  rcases h with h | h | h
  · exact Or.inl (by simp [isWritten, Category.keeps_of_mem_key h])
  · exact Or.inr (Or.inl h)
  · obtain rfl | ⟨part, hpart, hx⟩ := mem_join h
    · exact Or.inr (Or.inr rfl)
    · obtain ⟨m, -, rfl⟩ := List.mem_map.mp hpart
      exact Or.inl (isWritten_of_mem_encode hx)

theorem ampersand_notMem_text (p : Parameter) : '&' ∉ p.text := by
  intro h
  rcases mem_text h with h | h | h <;> exact absurd h (by decide)

theorem text_ne_nil (p : Parameter) : p.text ≠ [] := by
  simp [text]

/-- A parameter of a query is read as its key and its unescaped value. -/
theorem pair_text (p : Parameter) : pair p.text = (p.key.toList, p.value.toList) := by
  have hdecode : decode p.key.toList = p.key.toList :=
    decode_of_keeps fun x hx => Category.keeps_of_mem_key hx
  rw [text, pair_append p.equals_notMem_key, hdecode, join_encode_members, decode_join_encode,
    toList_value]

end Parameter

namespace Request

theorem ampersand_notMem_texts (r : Request) :
    ∀ part ∈ r.parameters.map Parameter.text, '&' ∉ part := by
  intro part hpart
  obtain ⟨p, -, rfl⟩ := List.mem_map.mp hpart
  exact p.ampersand_notMem_text

/-- Reading the query of a request gives its pairs, in order. -/
theorem pairs_query (r : Request) :
    Text.FormEncoded.pairs r.query =
      r.pairs.map fun (key, value) => (key.toList, value.toList) := by
  have hall : (r.parameters.map Parameter.text).filter (!·.isEmpty) =
      r.parameters.map Parameter.text := by
    refine List.filter_eq_self.mpr fun part hpart => ?_
    obtain ⟨p, -, rfl⟩ := List.mem_map.mp hpart
    simpa using p.text_ne_nil
  rw [query, pairs_join r.ampersand_notMem_texts, hall, pairs, List.map_map, List.map_map]
  exact List.map_congr_left fun p _ => p.pair_text

/-- Only the request without parameters has an empty query. -/
theorem query_eq_nil_iff {r : Request} : r.query = [] ↔ r.parameters = [] := by
  constructor
  · intro h
    cases hp : r.parameters with
    | nil => rfl
    | cons p rest =>
      have hlen : p.text.length ≤ r.query.length := by
        rw [query, hp, List.map_cons]
        cases rest with
        | nil => simp
        | cons q rest => simp [Text.join_cons_cons]
      rw [h, List.length_nil, Nat.le_zero] at hlen
      exact absurd (List.eq_nil_of_length_eq_zero hlen) p.text_ne_nil
  · intro h
    rw [query, h]
    rfl

/-- The request for a selection is empty only when nothing is selected. -/
theorem isEmpty_ofSelection (s : Selection) (o : MemberOrder) :
    (ofSelection s o).isEmpty = s.isEmpty := by
  rw [Bool.eq_iff_iff, isEmpty, ofSelection, List.isEmpty_iff, List.filterMap_eq_nil_iff,
    Selection.isEmpty, List.all_eq_true]
  refine forall₂_congr fun c _ => ?_
  cases (s.get c).isEmpty <;> simp

/-- What a query is made of. -/
theorem mem_query {r : Request} {x : Char} (h : x ∈ r.query) :
    isWritten x = true ∨ x = '=' ∨ x = ',' ∨ x = '&' := by
  obtain rfl | ⟨part, hpart, hx⟩ := mem_join h
  · exact Or.inr (Or.inr (Or.inr rfl))
  · obtain ⟨p, -, rfl⟩ := List.mem_map.mp hpart
    rcases Parameter.mem_text hx with h | h | h
    · exact Or.inl h
    · exact Or.inr (Or.inl h)
    · exact Or.inr (Or.inr (Or.inl h))

theorem notMem_query {x : Char} (hx : isWritten x = false) (heq : x ≠ '=') (hcomma : x ≠ ',')
    (hamp : x ≠ '&') (r : Request) : x ∉ r.query := by
  intro h
  rcases mem_query h with h | h | h | h
  · rw [h] at hx
    exact absurd hx (by decide)
  · exact heq h
  · exact hcomma h
  · exact hamp h

end Request

end FacetFilter
