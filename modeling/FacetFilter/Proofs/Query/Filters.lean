import FacetFilter.Proofs.Query.Page
import FacetFilter.Proofs.Text.Reading

/-! Parameters behind the filters of a page. A parameter counts for the category whose key it has,
exactly, and every other parameter is passed over. Only a query that begins with a question mark of
its own is read in another way: the mark is dropped, so the first parameter loses it from its key
and can count for a category whose key it does not have. -/

namespace FacetFilter

open Text (cut isBlank pieces trim)
open Text.FormEncoded (decode decode_cons pair pairs)

/-- The members that parameters list under the key of a category: the pieces of their values
between commas, trimmed, in order, without those that hold nothing but blanks. -/
def membersUnder (c : Category) (ps : List (List Char × List Char)) : List String :=
  (ps.filter fun p => p.1 = c.key.toList).flatMap fun p =>
    ((pieces ',' p.2).filter (·.any (!isBlank ·))).map (String.ofList ∘ trim)

section Parameters

variable {c : Category} {p : List Char × List Char} {ps qs : List (List Char × List Char)}

theorem membersUnder_append :
    membersUnder c (ps ++ qs) = membersUnder c ps ++ membersUnder c qs := by
  rw [membersUnder, List.filter_append, List.flatMap_append]
  rfl

/-- A parameter with another key adds nothing. -/
theorem membersUnder_cons_of_ne (h : p.1 ≠ c.key.toList) :
    membersUnder c (p :: ps) = membersUnder c ps := by
  rw [membersUnder, List.filter_cons_of_neg (by simpa using h)]
  rfl

theorem membersUnder_cons_of_eq (h : p.1 = c.key.toList) :
    membersUnder c (p :: ps) = listedMembers p.2 ++ membersUnder c ps := by
  rw [membersUnder, List.filter_cons_of_pos (by simpa using h), List.flatMap_cons,
    listedMembers_eq]
  rfl

/-- Nothing is listed where every value under the key is blank between its commas. -/
theorem membersUnder_eq_nil_iff :
    membersUnder c ps = [] ↔
      ∀ p ∈ ps, p.1 = c.key.toList → ∀ piece ∈ pieces ',' p.2, ∀ x ∈ piece, isBlank x = true := by
  simp [membersUnder]

/-- Reading parameters gives each category the members under its key. -/
theorem RawFilters.get_ofPairs (ps : List (List Char × List Char)) (c : Category) :
    (ofPairs ps).get c = membersUnder c ps := by
  induction ps with
  | nil => exact PerCategory.get_ofFun _ c
  | cons p ps ih =>
    rw [← List.singleton_append, get_ofPairs_append, ih, ofPairs, PerCategory.get_ofFun,
      List.flatMap_singleton, List.singleton_append]
    by_cases h : p.1 = c.key.toList
    · have hkey : String.ofList p.1 = c.key := by rw [h, String.ofList_toList]
      simp only [membersUnder_cons_of_eq h, hkey, if_true]
    · have hkey : String.ofList p.1 ≠ c.key := fun he => h (by rw [← he, String.toList_ofList])
      simp only [membersUnder_cons_of_ne h, hkey, if_false, List.nil_append]

end Parameters

/-! ## A mark before the query -/

/-- What a written list holds under a key is what its first part holds and the parts behind it. An
empty part, which gives no parameter, would have no key. -/
theorem membersUnder_pairs (c : Category) (cs : List Char) :
    membersUnder c (pairs cs) =
      membersUnder c (pair (cut '&' cs).1 :: (cut '&' cs).2.elim [] pairs) := by
  have htail : (((cut '&' cs).2.elim [] (pieces '&')).filter (!·.isEmpty)).map pair =
      (cut '&' cs).2.elim [] pairs := by
    cases (cut '&' cs).2 <;> rfl
  rw [pairs, Text.pieces_eq_cut, List.filter_cons]
  split
  · rw [List.map_cons, htail]
  · next hempty =>
    have hnil : (cut '&' cs).1 = [] := by simpa using hempty
    have hkey : (pair []).1 ≠ c.key.toList := by cases c <;> decide
    rw [hnil, membersUnder_cons_of_ne hkey, htail]

theorem key_pair_marked (part : List Char) :
    (pair ('?' :: part)).1 = '?' :: decode (cut '=' part).1 :=
  decode_cons (by decide) (by decide) (by decide) _

/-- No key of a category begins with a question mark. -/
theorem key_pair_marked_ne (c : Category) (part : List Char) :
    (pair ('?' :: part)).1 ≠ c.key.toList := by
  rw [key_pair_marked]
  cases c <;> exact fun h => absurd (List.cons.inj h).1 (by decide)

namespace RawFilters

theorem get_ofQuery_of_unmarked {query : List Char} (h : ∀ rest, query ≠ '?' :: rest)
    (c : Category) : (ofQuery query).get c = membersUnder c (pairs query) := by
  rw [ofQuery, afterMark_eq_self h, get_ofPairs]

/-- Behind a mark, the first parameter is read without it, and the others as they are. -/
theorem get_ofQuery_marked (rest : List Char) (c : Category) :
    (ofQuery ('?' :: rest)).get c =
      membersUnder c (pair (cut '&' rest).1 :: pairs ('?' :: rest)) := by
  let first := (cut '&' rest).1
  let others := (cut '&' rest).2.elim [] pairs
  have hcut : cut '&' ('?' :: rest) = ('?' :: first, (cut '&' rest).2) := by
    rw [cut, if_neg (by decide)]
  have hmarked : membersUnder c (pairs ('?' :: rest)) = membersUnder c others := by
    rw [membersUnder_pairs, hcut, membersUnder_cons_of_ne (key_pair_marked_ne c first)]
  calc (ofQuery ('?' :: rest)).get c
      = membersUnder c (pairs rest) := get_ofPairs _ c
    _ = membersUnder c ([pair first] ++ others) := membersUnder_pairs c rest
    _ = membersUnder c [pair first] ++ membersUnder c (pairs ('?' :: rest)) := by
      rw [membersUnder_append, hmarked]
    _ = membersUnder c (pair first :: pairs ('?' :: rest)) := membersUnder_append.symm

end RawFilters

/-! ## Filters of a page -/

namespace UrlLibrary

variable {lib : UrlLibrary} {u : lib.Parsed}

/-- The parameters of the query, which is read as form-urlencoded text. -/
def parameters (lib : UrlLibrary) (u : lib.Parsed) : List (List Char × List Char) :=
  pairs ((lib.parts u).query.getD [])

/-- The first parameter of a query that begins with a question mark, read without the mark. -/
def marked? (lib : UrlLibrary) (u : lib.Parsed) : Option (List Char × List Char) :=
  match (lib.parts u).query with
  | some ('?' :: rest) => some (pair (cut '&' rest).1)
  | _ => none

/-- A page carries what its parameters list, and before that what its first parameter lists when a
mark is taken from it. -/
theorem get_filters (u : lib.Parsed) (c : Category) :
    (lib.filters u).get c = membersUnder c ((lib.marked? u).toList ++ lib.parameters u) := by
  unfold filters marked? parameters
  split
  · next rest hquery =>
    rw [hquery]
    exact RawFilters.get_ofQuery_marked rest c
  · next hother =>
    refine RawFilters.get_ofQuery_of_unmarked (fun rest hrest => ?_) c
    cases hquery : (lib.parts u).query with
    | none => simp [hquery] at hrest
    | some query =>
      rw [hquery, Option.getD_some] at hrest
      exact hother rest (hrest ▸ hquery)

/-- The query of an accepted page is the text of its URL after the first question mark and before
the number sign. The page carries for each category what the parameters of the query list under the
key of the category, unless the query begins with a mark behind which its first parameter lists
something under this key; then the page carries that as well, before the rest. -/
theorem filters_named_iff (hlib : lib.Lawful) {text : String} (h : lib.page text = .ok u) :
    (lib.parts u).query = (cut '?' (cut '#' (lib.text u).toList).1).2 ∧
    RawFilters.ofUrl lib text = .ok (lib.filters u) ∧
    (∀ c, (lib.filters u).get c = membersUnder c ((lib.marked? u).toList ++ lib.parameters u)) ∧
    ∀ c, (lib.filters u).get c = membersUnder c (lib.parameters u) ↔
      ∀ p ∈ lib.marked? u, p.1 = c.key.toList → ∀ piece ∈ pieces ',' p.2, ∀ x ∈ piece,
        isBlank x = true := by
  have hpage := made_of_page h
  refine ⟨?_, ?_, get_filters u, fun c => ?_⟩
  · rw [hlib.text_eq u hpage]
    exact (hlib.wellFormed u hpage).query_eq_cut
  · rw [RawFilters.ofUrl, h]
    rfl
  · rw [get_filters, membersUnder_append, List.append_left_eq_self, membersUnder_eq_nil_iff]
    simp only [Option.mem_toList, Option.mem_def]

/-- Keys are decoded before they are compared, and what stands behind the number sign is not
read. -/
theorem filters_named_iff_repeated :
    let lib := Url.asciiLibrary
    let text := "https://rigour.example/hosts?%63ountries=US,%2C+de+&xasns=1&countries=%zz#?asns=7"
    ∃ u, lib.page text = .ok u ∧ lib.marked? u = none ∧
      RawFilters.ofUrl lib text = .ok (lib.filters u) ∧
      (∀ c, (lib.filters u).get c = membersUnder c (lib.parameters u)) ∧
      lib.filters u = ⟨["US", "de", "%zz"], [], []⟩ := by
  intro lib text
  have hpage : (lib.page text).toOption.map (fun u => (lib.marked? u, lib.filters u)) =
      some (none, ⟨["US", "de", "%zz"], [], []⟩) := by decide +kernel
  obtain ⟨u, hu, hparts⟩ := Text.exists_eq_ok_of_toOption hpage
  obtain ⟨hmark, hfilters⟩ := Prod.mk.inj hparts
  obtain ⟨-, hread, -, hnamed⟩ := filters_named_iff Url.lawful_asciiLibrary hu
  refine ⟨u, hu, hmark, hread, fun c => (hnamed c).mpr ?_, hfilters⟩
  intro p hp
  rw [hmark] at hp
  cases hp

/-- A parameter whose key begins with a question mark counts for a category whose key it does not
have. -/
theorem filters_second_mark :
    let lib := Url.asciiLibrary
    ∃ u, lib.page "http://a/??countries=US" = .ok u ∧
      lib.parameters u = [("?countries".toList, "US".toList)] ∧
      lib.filters u = ⟨["US"], [], []⟩ ∧
      ¬ ∀ c, (lib.filters u).get c = membersUnder c (lib.parameters u) := by
  intro lib
  have hpage : (lib.page "http://a/??countries=US").toOption.map
      (fun u => (lib.parameters u, lib.filters u)) =
        some ([("?countries".toList, "US".toList)], ⟨["US"], [], []⟩) := by decide +kernel
  obtain ⟨u, hu, hparts⟩ := Text.exists_eq_ok_of_toOption hpage
  obtain ⟨hparameters, hfilters⟩ := Prod.mk.inj hparts
  refine ⟨u, hu, hparameters, hfilters, fun hnamed => ?_⟩
  have hcountry := hnamed .country
  rw [hparameters, hfilters] at hcountry
  exact absurd hcountry (by decide)

end UrlLibrary

end FacetFilter
