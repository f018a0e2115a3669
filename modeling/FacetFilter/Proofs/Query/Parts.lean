import FacetFilter.Proofs.Query.Filters
import FacetFilter.Proofs.Text.Separators

/-! Queries by their parts. The filters of a query are those of its parts between ampersands, one
part after another; a question mark matters at the very start and nowhere else. So as long as no
question mark stands there, what a change of some parts does to the filters is decided by these
parts alone. -/

namespace FacetFilter

open Text (join)
open Text.FormEncoded (commas decode decode_append_comma pair pair_append pairs pairs_append_cons
  pairs_join_eq_flatMap)

/-! ## Parts -/

section Parts

variable {c d : Category} {part other : List Char}

theorem membersUnder_flatMap (c : Category) (parts : List (List Char)) :
    membersUnder c (parts.flatMap pairs) = parts.flatMap fun part => membersUnder c (pairs part) := by
  induction parts with
  | nil => rfl
  | cons part rest ih => rw [List.flatMap_cons, membersUnder_append, ih, List.flatMap_cons]

/-- A text without an ampersand is one parameter. -/
theorem membersUnder_part (h : '&' ∉ part) (c : Category) :
    membersUnder c (pairs part) = membersUnder c [pair part] := by
  rw [membersUnder_pairs, Text.cut_of_notMem h]
  rfl

/-- A part that names another key lists nothing, and neither does an empty one. -/
theorem membersUnder_part_of_ne (h : '&' ∉ part) (hkey : part = [] ∨ (pair part).1 ≠ c.key.toList) :
    membersUnder c (pairs part) = [] := by
  rcases hkey with rfl | hkey
  · rfl
  · rw [membersUnder_part h, membersUnder_cons_of_ne hkey]
    rfl

/-- The members on both sides of a comma are listed one after the other. -/
theorem listedMembers_append_cons (before after : List Char) :
    listedMembers (before ++ ',' :: after) = listedMembers before ++ listedMembers after := by
  rw [listedMembers, Text.pieces_append_cons, List.map_append, List.filter_append, List.map_append]
  rfl

/-- A parameter cut at a comma lists what its two halves list. -/
theorem membersUnder_pair_comma {key comma : List Char} (hkey : '=' ∉ key) (hcomma : comma ∈ commas)
    (x y : List Char) (c : Category) :
    membersUnder c [pair (key ++ '=' :: (x ++ (comma ++ y)))] =
      membersUnder c [pair (key ++ '=' :: x)] ++ membersUnder c [pair (key ++ '=' :: y)] := by
  rw [pair_append hkey, pair_append hkey, pair_append hkey, decode_append_comma hcomma]
  by_cases h : decode key = c.key.toList
  · rw [membersUnder_cons_of_eq h, membersUnder_cons_of_eq h, membersUnder_cons_of_eq h,
      listedMembers_append_cons]
    simp [membersUnder]
  · rw [membersUnder_cons_of_ne h, membersUnder_cons_of_ne h, membersUnder_cons_of_ne h]
    rfl

end Parts

/-! ## Queries -/

namespace RawFilters

/-- A query that does not begin with a question mark. -/
def Unmarked (query : List Char) : Prop := query.head? ≠ some '?'

instance : DecidablePred Unmarked := fun query =>
  inferInstanceAs (Decidable (query.head? ≠ some '?'))

/-- Only the first of two parts can have its mark dropped. -/
theorem afterMark_append_cons (before after : List Char) :
    afterMark (before ++ '&' :: after) = afterMark before ++ '&' :: after := by
  cases before with
  | nil => rfl
  | cons first before => by_cases h : first = '?' <;> simp [afterMark, h]

theorem get_ofQuery_append_cons (before after : List Char) (c : Category) :
    (ofQuery (before ++ '&' :: after)).get c =
      (ofQuery before).get c ++ (ofQuery ('&' :: after)).get c := by
  have hafter : ofQuery ('&' :: after) = ofPairs (pairs after) :=
    congrArg ofPairs (pairs_append_cons [] after)
  rw [hafter, ofQuery, afterMark_append_cons, pairs_append_cons, get_ofPairs_append]
  rfl

variable {before after : List (List Char)}

/-- Without a mark at its start, a query lists what its parts list. -/
theorem get_ofQuery_join {parts : List (List Char)} (h : Unmarked (join '&' parts)) (c : Category) :
    (ofQuery (join '&' parts)).get c = parts.flatMap fun part => membersUnder c (pairs part) := by
  have hne : ∀ rest, join '&' parts ≠ '?' :: rest := fun rest hrest => h (by rw [hrest]; rfl)
  rw [get_ofQuery_of_unmarked hne, pairs_join_eq_flatMap, membersUnder_flatMap]

/-- Queries without a mark list the same when their parts do. -/
theorem ofQuery_join_congr {parts changed : List (List Char)} (h : Unmarked (join '&' parts))
    (h' : Unmarked (join '&' changed))
    (hsame : ∀ c, (parts.flatMap fun part => membersUnder c (pairs part)) =
      changed.flatMap fun part => membersUnder c (pairs part)) :
    ofQuery (join '&' parts) = ofQuery (join '&' changed) := by
  refine PerCategory.ext_get fun c => ?_
  rw [get_ofQuery_join h, get_ofQuery_join h', hsame c]

/-- A part that names no category can stand anywhere. -/
theorem ofQuery_insert {part : List Char} (hpart : '&' ∉ part)
    (hkey : part = [] ∨ ∀ c : Category, (pair part).1 ≠ c.key.toList)
    (h : Unmarked (join '&' (before ++ after)))
    (h' : Unmarked (join '&' (before ++ part :: after))) :
    ofQuery (join '&' (before ++ part :: after)) = ofQuery (join '&' (before ++ after)) := by
  refine ofQuery_join_congr h' h fun c => ?_
  have hnothing : membersUnder c (pairs part) = [] :=
    membersUnder_part_of_ne hpart (hkey.imp_right fun hne => hne c)
  rw [List.flatMap_append, List.flatMap_cons, hnothing, List.nil_append, ← List.flatMap_append]

/-- Neighbours that name two categories can change places. -/
theorem ofQuery_exchange {part other : List Char} {c d : Category} (hpart : '&' ∉ part)
    (hother : '&' ∉ other) (hc : (pair part).1 = c.key.toList)
    (hd : (pair other).1 = d.key.toList) (hne : c ≠ d)
    (h : Unmarked (join '&' (before ++ part :: other :: after)))
    (h' : Unmarked (join '&' (before ++ other :: part :: after))) :
    ofQuery (join '&' (before ++ part :: other :: after)) =
      ofQuery (join '&' (before ++ other :: part :: after)) := by
  refine ofQuery_join_congr h h' fun e => ?_
  have hkey : ∀ {a b : Category}, a ≠ b → a.key.toList ≠ b.key.toList := fun hab he =>
    hab (Category.key_injective (String.toList_inj.mp he))
  simp only [List.flatMap_append, List.flatMap_cons]
  -- Each category is named by at most one of the two.
  by_cases he : c = e
  · subst he
    rw [membersUnder_part_of_ne hother (.inr (hd ▸ hkey hne.symm))]
    rfl
  · rw [membersUnder_part_of_ne hpart (.inr (hc ▸ hkey he))]
    rfl

/-- A parameter can be cut in two at a comma. -/
theorem ofQuery_cut {key x y comma : List Char} (hkey : '=' ∉ key) (hpart : '&' ∉ key ++ (x ++ y))
    (hcomma : comma ∈ commas)
    (h : Unmarked (join '&' (before ++ (key ++ '=' :: (x ++ (comma ++ y))) :: after)))
    (h' : Unmarked (join '&' (before ++ (key ++ '=' :: x) :: (key ++ '=' :: y) :: after))) :
    ofQuery (join '&' (before ++ (key ++ '=' :: (x ++ (comma ++ y))) :: after)) =
      ofQuery (join '&' (before ++ (key ++ '=' :: x) :: (key ++ '=' :: y) :: after)) := by
  refine ofQuery_join_congr h h' fun c => ?_
  have hclean : ∀ comma ∈ commas, '&' ∉ comma := by decide
  have hampersand := hclean comma hcomma
  simp only [List.mem_append, not_or] at hpart
  obtain ⟨hk, hx, hy⟩ := hpart
  have hwhole : '&' ∉ key ++ '=' :: (x ++ (comma ++ y)) := by simp [hk, hx, hy, hampersand]
  have hfirst : '&' ∉ key ++ '=' :: x := by simp [hk, hx]
  have hsecond : '&' ∉ key ++ '=' :: y := by simp [hk, hy]
  simp only [List.flatMap_append, List.flatMap_cons, membersUnder_part hwhole,
    membersUnder_part hfirst, membersUnder_part hsecond, membersUnder_pair_comma hkey hcomma,
    List.append_assoc]

/-- The filters of a query cut at an ampersand are those of what stands before it, followed by those
of what stands behind it and cannot lose a mark there. So as long as no mark begins the query, parts
that name no category, and empty ones, can stand anywhere between its parts; neighbours that name
two categories can change places; and a parameter can be cut in two at a comma, however the comma is
written and whatever stands on its two sides. -/
theorem filters_by_parts :
    (∀ (before after : List Char) (c : Category), (ofQuery (before ++ '&' :: after)).get c =
      (ofQuery before).get c ++ (ofQuery ('&' :: after)).get c) ∧
    (∀ (before after : List (List Char)) (part : List Char), '&' ∉ part →
      (part = [] ∨ ∀ c : Category, (pair part).1 ≠ c.key.toList) →
      Unmarked (join '&' (before ++ after)) → Unmarked (join '&' (before ++ part :: after)) →
      ofQuery (join '&' (before ++ part :: after)) = ofQuery (join '&' (before ++ after))) ∧
    (∀ (before after : List (List Char)) (part other : List Char) (c d : Category),
      '&' ∉ part → '&' ∉ other → (pair part).1 = c.key.toList →
      (pair other).1 = d.key.toList → c ≠ d →
      Unmarked (join '&' (before ++ part :: other :: after)) →
      Unmarked (join '&' (before ++ other :: part :: after)) →
      ofQuery (join '&' (before ++ part :: other :: after)) =
        ofQuery (join '&' (before ++ other :: part :: after))) ∧
    (∀ (before after : List (List Char)) (key x y comma : List Char), '=' ∉ key →
      '&' ∉ key ++ (x ++ y) → comma ∈ commas →
      Unmarked (join '&' (before ++ (key ++ '=' :: (x ++ (comma ++ y))) :: after)) →
      Unmarked (join '&' (before ++ (key ++ '=' :: x) :: (key ++ '=' :: y) :: after)) →
      ofQuery (join '&' (before ++ (key ++ '=' :: (x ++ (comma ++ y))) :: after)) =
        ofQuery (join '&' (before ++ (key ++ '=' :: x) :: (key ++ '=' :: y) :: after))) :=
  ⟨get_ofQuery_append_cons, fun _ _ _ => ofQuery_insert, fun _ _ _ _ _ _ => ofQuery_exchange,
    fun _ _ _ _ _ _ => ofQuery_cut⟩

/-- A mark behind an ampersand belongs to a key, and octets that a comma cuts off stay cut off. -/
theorem filters_by_parts_unfinished :
    (ofQuery "?asns=1&?asns=2".toList).asns = ["1"] ∧
    ofQuery "asns=1&%&services=a".toList = ofQuery "asns=1&services=a".toList ∧
    ofQuery "services=a&asns=1".toList = ofQuery "asns=1&services=a".toList ∧
    ofQuery "s%65rvices=%E2%82%2c%4".toList =
      ofQuery "s%65rvices=%E2%82&s%65rvices=%4".toList := by
  obtain ⟨happend, hinsert, hexchange, hcut⟩ := filters_by_parts
  refine ⟨?_, ?_, ?_, ?_⟩
  · exact (happend "?asns=1".toList "?asns=2".toList .asn).trans (by decide)
  · exact hinsert ["asns=1".toList] ["services=a".toList] "%".toList (by decide)
      (.inr fun c => by cases c <;> decide) (by decide) (by decide)
  · exact hexchange [] [] "services=a".toList "asns=1".toList .service .asn (by decide)
      (by decide) (by decide) (by decide) (by decide) (by decide) (by decide)
  · exact hcut [] [] "s%65rvices".toList "%E2%82".toList "%4".toList "%2c".toList (by decide)
      (by decide) (by decide) (by decide) (by decide)

end RawFilters

end FacetFilter
