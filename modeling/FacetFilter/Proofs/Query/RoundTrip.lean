import FacetFilter.Proofs.Query.Request
import FacetFilter.Proofs.Selection.NormalForm
import FacetFilter.Query.Filters

/-! Reading the query of a selection. It lists the members in their order, each replaced by its
pieces between commas; members are normal forms, so a member without a comma is its own only
piece, and one with a comma is lost. -/

namespace FacetFilter

open Text (isBlank join pieces trim)

/-- A piece holds more than blanks exactly when trimming leaves something of it. -/
theorem listedMembers_eq (value : List Char) :
    listedMembers value =
      ((pieces ',' value).filter (·.any (!isBlank ·))).map (String.ofList ∘ trim) := by
  rw [listedMembers, List.filter_map, List.map_map]
  refine congrArg (List.map _) (List.filter_congr fun piece _ => ?_)
  rw [Bool.eq_iff_iff]
  simp [Text.trim_eq_nil_iff]

theorem listedMembers_join (parts : List (List Char)) :
    listedMembers (join ',' parts) = parts.flatMap listedMembers := by
  cases parts with
  | nil => rfl
  | cons part rest =>
    rw [listedMembers, Text.pieces_join (List.cons_ne_nil part rest)]
    simp only [List.map_flatMap, List.filter_flatMap]
    rfl

theorem comma_notMem_listedMembers {value : List Char} {m : String}
    (h : m ∈ listedMembers value) : ',' ∉ m.toList := by
  obtain ⟨cs, hcs, rfl⟩ := List.mem_map.mp h
  obtain ⟨piece, hpiece, rfl⟩ := List.mem_map.mp (List.mem_filter.mp hcs).1
  rw [String.toList_ofList]
  exact fun hm => Text.sep_notMem_of_mem_pieces hpiece (Text.mem_of_mem_trim hm)

/-- A normal form without a comma is read as itself. -/
theorem listedMembers_normalForm {c : Category} {m : String} (h : normalForm? c m = some m)
    (hc : ',' ∉ m.toList) : listedMembers m.toList = [m] := by
  obtain ⟨htrim, hne, -⟩ := normalForm?_self_iff.mp h
  simp [listedMembers, Text.pieces_of_notMem hc, htrim, hne]

namespace RawFilters

/-- Only a mark at its start is taken from a query. -/
theorem afterMark_eq_self {query : List Char} (h : ∀ rest, query ≠ '?' :: rest) :
    afterMark query = query := by
  unfold afterMark
  split
  · next rest => exact absurd rfl (h rest)
  · rfl

/-- The query of a request lists the pieces of its members. -/
theorem get_ofQuery_query (r : Request) (c : Category) :
    (ofQuery r.query).get c = r.parameters.flatMap fun p =>
      if p.category = c then p.members.flatMap fun m => listedMembers m.toList else [] := by
  have hmark : '?' ∉ r.query :=
    Request.notMem_query (by decide) (by decide) (by decide) (by decide) r
  have hself : afterMark r.query = r.query :=
    afterMark_eq_self fun rest hrest => hmark (hrest ▸ List.mem_cons_self)
  rw [ofQuery, hself, Request.pairs_query, ofPairs, PerCategory.get_ofFun,
    Request.pairs, List.map_map, List.flatMap_map]
  refine List.flatMap_congr fun p _ => ?_
  have hkey : p.key = c.key ↔ p.category = c :=
    ⟨fun h => Category.key_injective h, fun h => congrArg Category.key h⟩
  simp only [Function.comp_apply, String.ofList_toList, hkey, Parameter.toList_value,
    listedMembers_join, List.flatMap_map]

end RawFilters

namespace Request

variable {s : Selection} {o : MemberOrder} {c : Category}

theorem ordered_eq_nil (h : (s.get c).isEmpty = true) : (s.get c).ordered c o = [] := by
  have := MemberSet.ordered_perm (s.get c) c o
  rwa [MemberSet.isEmpty_iff.mp h, List.perm_nil] at this

/-- The parameters of a selection that belong to one category hold its members in order; when
there are none, there is no such parameter. -/
theorem flatMap_parameters (s : Selection) (o : MemberOrder) (c : Category)
    (f : String → List String) :
    ((ofSelection s o).parameters.flatMap fun p => if p.category = c then p.members.flatMap f
      else []) = ((s.get c).ordered c o).flatMap f := by
  have one : ∀ d : Category,
      ((if (s.get d).isEmpty then none else some (Parameter.mk d ((s.get d).ordered d o))).toList
        |>.flatMap fun p => if p.category = c then p.members.flatMap f else []) =
      if d = c then ((s.get c).ordered c o).flatMap f else [] := by
    intro d
    by_cases hd : d = c
    · subst hd
      by_cases he : (s.get d).isEmpty
      · simp [he, ordered_eq_nil he]
      · simp [he]
    · by_cases he : (s.get d).isEmpty <;> simp [he, hd]
  rw [ofSelection, List.filterMap_eq_flatMap_toList, List.flatMap_assoc,
    List.flatMap_congr fun d _ => one d]
  cases c <;> simp [Category.all]

end Request

namespace Selection

variable {s : Selection} {o : MemberOrder}

/-- The members of every category in order, each replaced by its pieces between commas, trimmed
and without the blank ones. -/
def relisted (s : Selection) (o : MemberOrder) : RawFilters :=
  .ofFun fun c => ((s.get c).ordered c o).flatMap fun m => listedMembers m.toList

theorem ofQuery_query (s : Selection) (o : MemberOrder) :
    RawFilters.ofQuery (Request.ofSelection s o).query = s.relisted o := by
  refine PerCategory.ext_get fun c => ?_
  rw [RawFilters.get_ofQuery_query, Request.flatMap_parameters, relisted, PerCategory.get_ofFun]

/-- Without commas nothing is taken apart. -/
theorem relisted_of_commaFree (hs : s.Normal) (hc : s.CommaFree) : s.relisted o = s.listed o := by
  refine PerCategory.ext_get fun c => ?_
  rw [relisted, listed, PerCategory.get_ofFun, PerCategory.get_ofFun]
  have hself : ∀ m ∈ (s.get c).ordered c o, listedMembers m.toList = [m] := fun m hm =>
    listedMembers_normalForm (hs c m (mem_ordered.mp hm)) (hc c m (mem_ordered.mp hm))
  rw [List.flatMap_congr hself, List.flatMap_singleton']

/-- What a query lists never has a comma. -/
theorem commaFree_relisted (s : Selection) (o : MemberOrder) :
    (ofRaw (s.relisted o)).CommaFree := by
  refine commaFree_ofRaw fun c v hv => ?_
  rw [relisted, PerCategory.get_ofFun] at hv
  obtain ⟨m, -, hv⟩ := List.mem_flatMap.mp hv
  exact comma_notMem_listedMembers hv

/-- No selection read from a query has a member with a comma. -/
theorem commaFree_ofQuery (query : List Char) : (ofRaw (.ofQuery query)).CommaFree := by
  refine commaFree_ofRaw fun c m hm => ?_
  rw [RawFilters.ofQuery, RawFilters.ofPairs, PerCategory.get_ofFun] at hm
  obtain ⟨⟨key, value⟩, -, hm⟩ := List.mem_flatMap.mp hm
  dsimp only at hm
  split at hm
  · exact comma_notMem_listedMembers hm
  · cases hm

/-- Filters that are normal forms already are taken as they are. -/
theorem get_ofRaw {raw : RawFilters} {c : Category}
    (h : ∀ v ∈ raw.get c, normalForm? c v = some v) : (ofRaw raw).get c = .ofList (raw.get c) := by
  have hself : (raw.get c).filterMap (normalForm? c) = raw.get c := by
    rw [List.filterMap_congr (g := some) h, List.filterMap_some]
  rw [ofRaw, PerCategory.get_ofFun, hself]

theorem get_ofRaw_listed (hs : s.Normal) (c : Category) :
    (ofRaw (s.listed o)).get c = .ofList ((s.get c).ordered c o) := by
  have hget : (s.listed o).get c = (s.get c).ordered c o := PerCategory.get_ofFun _ c
  rw [get_ofRaw, hget]
  rw [hget]
  exact fun m hm => hs c m (mem_ordered.mp hm)

theorem same_ofRaw_listed (hs : s.Normal) : (ofRaw (s.listed o)).same s = true := by
  refine same_iff.mpr fun c m => ?_
  rw [get_ofRaw_listed hs, MemberSet.mem_members_ofList, mem_ordered]

/-- The members of a selection of normal forms, listed in order, arrive in this order. -/
theorem inArrivalOrder_ofRaw_listed (hs : s.Normal) (c : Category) :
    ((ofRaw (s.listed o)).get c).inArrivalOrder = (s.get c).ordered c o := by
  have hn := (MemberSet.ordered_perm (s.get c) c o).symm.nodup (s.get c).nodup_members
  rw [get_ofRaw_listed hs, MemberSet.inArrivalOrder_ofList hn]

/-- A selection of normal forms comes back from its query exactly when no member has a comma. -/
theorem same_ofRaw_relisted_iff (hs : s.Normal) :
    (ofRaw (s.relisted o)).same s = true ↔ s.CommaFree := by
  constructor
  · intro h c m hm
    exact commaFree_relisted s o c m ((same_iff.mp h c m).mpr hm)
  · intro hc
    rw [relisted_of_commaFree hs hc]
    exact same_ofRaw_listed hs

/-- The query of a reachable selection lists its members in their order, each replaced by its
pieces between commas, trimmed and without the blank ones. So the selection comes back as a set
exactly when no member has a comma, and then its members arrive in the order in which they were
listed. -/
theorem filters_of_query (h : s.Reachable) (o : MemberOrder) :
    let back := RawFilters.ofQuery (Request.ofSelection s o).query
    (∀ c, back.get c = ((s.get c).ordered c o).flatMap fun m =>
      ((pieces ',' m.toList).filter (·.any (!isBlank ·))).map (String.ofList ∘ trim)) ∧
    ((ofRaw back).same s = true ↔ ∀ c, ∀ m ∈ (s.get c).members, ',' ∉ m.toList) ∧
    ((∀ c, ∀ m ∈ (s.get c).members, ',' ∉ m.toList) →
      ∀ c, ((ofRaw back).get c).inArrivalOrder = (s.get c).ordered c o) := by
  have hback : RawFilters.ofQuery (Request.ofSelection s o).query = s.relisted o :=
    ofQuery_query s o
  simp only [hback]
  refine ⟨fun c => ?_, same_ofRaw_relisted_iff h.normal, ?_⟩
  · simp only [relisted, PerCategory.get_ofFun, listedMembers_eq]
  · intro hc c
    rw [relisted_of_commaFree h.normal hc]
    exact inArrivalOrder_ofRaw_listed h.normal c

/-- A toggled member with a comma comes back as its pieces, after the member that was there before
it, and the selection is another one. -/
theorem filters_of_query_comma :
    let s := ((ofRaw ⟨["US", "DE"], ["as007"], ["R&D = 50%+"]⟩).toggle .service " a, ,é b ").2
    let back := RawFilters.ofQuery (Request.ofSelection s .insertion).query
    s.Reachable ∧ back = ⟨["US", "DE"], ["AS7"], ["R&D = 50%+", "a", "é b"]⟩ ∧
      (ofRaw back).same s = false := by
  intro s back
  have hs : s.Reachable := .toggle .service " a, ,é b " (.ofRaw _)
  obtain ⟨hlists, hiff, -⟩ := filters_of_query hs .insertion
  have hm : "a, ,é b" ∈ (s.get .service).members := by decide +kernel
  have hordered : ∀ c, (s.get c).ordered c .insertion =
      (s.get c).entries.reverse.map Entry.member := fun c =>
    MemberSet.inArrivalOrder_eq (List.reverse_perm _) (by cases c <;> decide +kernel)
  refine ⟨hs, PerCategory.ext_get fun c => ?_, Bool.eq_false_iff.mpr fun h => ?_⟩
  · rw [hlists c, hordered c]
    cases c <;> decide +kernel
  · exact hiff.mp h .service "a, ,é b" hm (by decide)

end Selection

end FacetFilter
