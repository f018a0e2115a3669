import FacetFilter.Proofs.Query.RoundTrip
import FacetFilter.Proofs.Selection.Equality
import FacetFilter.Proofs.Session.Arrival

/-! Where values come from. A value may be toggled, listed by a query or listed as it is; it is
trimmed at other moments on each of these ways and dropped at other moments when it is blank. As
long as no value has a comma and no two have one normal form, the ways end at one selection, whose
members arrived in the order in which the values were given. -/

namespace FacetFilter

open Text (join trim trimmed)
open Text.FormEncoded (encode)

/-- Reading a value without a comma as a list, and then taking normal forms, is taking its normal
form. -/
theorem filterMap_normalForm?_listedMembers {v : String} (h : ',' ∉ v.toList) (c : Category) :
    (listedMembers v.toList).filterMap (normalForm? c) = (normalForm? c v).toList := by
  have hlisted : listedMembers v.toList = if trim v.toList = [] then [] else [trimmed v] := by
    rw [listedMembers, Text.pieces_of_notMem h]
    split
    · next hblank => simp [hblank]
    · next hne => simp [hne, trimmed]
  rw [hlisted, normalForm?_eq]
  split
  · rfl
  · next hne =>
    have hagain : normalForm? c (trimmed v) = some (c.form (trimmed v)) := by
      refine normalForm?_eq_some_iff.mpr ⟨?_, ?_⟩ <;> simp [trimmed, hne]
    rw [List.filterMap_cons_some hagain]
    rfl

variable {c : Category} {values : List String}

namespace RawFilters

/-- Filters of one category. -/
def only (c : Category) (values : List String) : RawFilters := none.set c values

theorem get_only (c d : Category) (values : List String) :
    (only c values).get d = if d = c then values else [] := by
  by_cases h : d = c
  · subst h
    rw [only, PerCategory.get_set_self, if_pos rfl]
  · rw [only, PerCategory.get_set_of_ne none values h, if_neg h]
    cases d <;> rfl

theorem normalForms_only (c d : Category) (values : List String) :
    (only c values).normalForms d = if d = c then values.filterMap (normalForm? c) else [] := by
  rw [normalForms, get_only]
  by_cases h : d = c
  · subst h
    rw [if_pos rfl, if_pos rfl]
  · rw [if_neg h, if_neg h]
    rfl

/-- A query that lists values for a category, each of them escaped by itself. -/
theorem get_ofQuery_listing (c d : Category) (values : List String) :
    (ofQuery (c.key.toList ++ '=' :: join ',' (values.map fun v => encode v.toList))).get d =
      if d = c then values.flatMap fun v => listedMembers v.toList else [] := by
  have hquery := get_ofQuery_query ⟨[⟨c, values⟩]⟩ d
  rw [Request.query, List.map_singleton, Text.join_singleton, List.flatMap_singleton] at hquery
  simp only [eq_comm (a := d)]
  exact hquery

theorem normalForms_listing (h : ∀ v ∈ values, ',' ∉ v.toList) (c d : Category) :
    (ofQuery (c.key.toList ++ '=' :: join ',' (values.map fun v => encode v.toList))).normalForms d =
      (only c values).normalForms d := by
  rw [normalForms, get_ofQuery_listing, normalForms_only]
  split
  · next hd =>
    subst hd
    rw [List.filterMap_flatMap, List.filterMap_eq_flatMap_toList]
    exact List.flatMap_congr fun v hv => filterMap_normalForm?_listedMembers (h v hv) d
  · rfl

end RawFilters

/-- Toggles of one category flip the normal forms of their values there. -/
theorem flipped_map (c d : Category) (values : List String) :
    flipped (values.map (Toggle.mk c)) d = (RawFilters.only c values).normalForms d := by
  rw [flipped, List.filterMap_map, RawFilters.normalForms_only]
  by_cases h : d = c
  · subst h
    simp
  · simp [h, Ne.symm h]

namespace Selection

theorem inArrivalOrder_toggleAll_empty {ts : List Toggle} {c : Category}
    (h : (flipped ts c).Nodup) : ((empty.toggleAll ts).get c).inArrivalOrder = flipped ts c := by
  have hempty : empty.get c = MemberSet.empty := by cases c <;> rfl
  rw [get_toggleAll, hempty, MemberSet.inArrivalOrder_toggleAll_of_notMem h (by simp),
    MemberSet.inArrivalOrder_empty, List.nil_append]

theorem same_of_inArrivalOrder_eq {s t : Selection}
    (h : ∀ c, (s.get c).inArrivalOrder = (t.get c).inArrivalOrder) : s.same t = true := by
  refine same_iff.mpr fun c m => ?_
  rw [← MemberSet.mem_inArrivalOrder, ← MemberSet.mem_inArrivalOrder, h]

/-- Values without commas whose normal forms are distinct, blank ones apart, lead to one selection
in three ways: toggled one after another from nothing, listed in a query with each of them escaped,
or listed as they are. On each way the members are the normal forms of the values that are not
blank, in the order of the values, and no other category has any. -/
theorem sources_agree (c : Category) (values : List String) (hcomma : ∀ v ∈ values, ',' ∉ v.toList)
    (hdistinct : (values.filterMap (normalForm? c)).Nodup) :
    let toggled := empty.toggleAll (values.map (Toggle.mk c))
    let queried := ofRaw (.ofQuery
      (c.key.toList ++ '=' :: join ',' (values.map fun v => encode v.toList)))
    let listed := ofRaw (RawFilters.only c values)
    (∀ d, let order := if d = c then values.filterMap (normalForm? c) else []
      (toggled.get d).inArrivalOrder = order ∧ (queried.get d).inArrivalOrder = order ∧
        (listed.get d).inArrivalOrder = order) ∧
    toggled.same queried = true ∧ queried.same listed = true ∧
    ∀ d w, toggled.contains d w = queried.contains d w ∧
      queried.contains d w = listed.contains d w := by
  intro toggled queried listed
  have horder : ∀ d, (RawFilters.only c values).normalForms d =
      if d = c then values.filterMap (normalForm? c) else [] := fun d =>
    RawFilters.normalForms_only c d values
  have hnodup : ∀ d, ((RawFilters.only c values).normalForms d).Nodup := by
    intro d
    rw [horder]
    split
    · exact hdistinct
    · exact List.nodup_nil
  have htoggled : ∀ d, (toggled.get d).inArrivalOrder = (RawFilters.only c values).normalForms d := by
    intro d
    rw [← flipped_map]
    exact inArrivalOrder_toggleAll_empty (flipped_map c d values ▸ hnodup d)
  have hlisted : ∀ d, (listed.get d).inArrivalOrder = (RawFilters.only c values).normalForms d :=
    fun d => (inArrivalOrder_ofRaw _ d).trans (MemberSet.eraseDups_of_nodup (hnodup d))
  have hqueried : ∀ d, (queried.get d).inArrivalOrder = (RawFilters.only c values).normalForms d := by
    intro d
    rw [inArrivalOrder_ofRaw, RawFilters.normalForms_listing hcomma]
    exact MemberSet.eraseDups_of_nodup (hnodup d)
  have hfirst : toggled.same queried = true :=
    same_of_inArrivalOrder_eq fun d => (htoggled d).trans (hqueried d).symm
  have hsecond : queried.same listed = true :=
    same_of_inArrivalOrder_eq fun d => (hqueried d).trans (hlisted d).symm
  refine ⟨fun d => ?_, hfirst, hsecond, fun d w => ?_⟩
  · rw [htoggled, hqueried, hlisted, horder]
    exact ⟨rfl, rfl, rfl⟩
  · exact ⟨contains_eq_of_same hfirst d w, contains_eq_of_same hsecond d w⟩

/-- Blanks of all kinds, blank values and signs that queries escape make no difference. -/
theorem sources_agree_spellings :
    let values := ["\u2003as007 ", "", "a+b %é", "\t"]
    let toggled := empty.toggleAll (values.map (Toggle.mk .asn))
    let queried := ofRaw (.ofQuery "asns=%E2%80%83as007+,,a%2Bb+%25%C3%A9,%09".toList)
    let listed := ofRaw ⟨[], values, []⟩
    (toggled.get .asn).inArrivalOrder = ["AS7", "a+b %é"] ∧
      (queried.get .asn).inArrivalOrder = ["AS7", "a+b %é"] ∧
      (listed.get .asn).inArrivalOrder = ["AS7", "a+b %é"] ∧
      (queried.get .country).inArrivalOrder = [] ∧ toggled.same queried = true ∧
      queried.same listed = true ∧ toggled.contains .asn "7" = listed.contains .asn "7" := by
  intro values toggled queried listed
  have hforms : values.filterMap (normalForm? .asn) = ["AS7", "a+b %é"] := by decide +kernel
  have hdistinct : (values.filterMap (normalForm? .asn)).Nodup := by
    rw [hforms]
    decide
  have hquery : Category.asn.key.toList ++ '=' :: join ',' (values.map fun v => encode v.toList) =
      "asns=%E2%80%83as007+,,a%2Bb+%25%C3%A9,%09".toList := by decide +kernel
  have hagree := sources_agree .asn values (by decide +kernel) hdistinct
  rw [hquery] at hagree
  obtain ⟨horder, hfirst, hsecond, hcontains⟩ := hagree
  obtain ⟨htoggled, hqueried, hlisted⟩ := horder .asn
  obtain ⟨hcontained, hcontained'⟩ := hcontains .asn "7"
  exact ⟨htoggled.trans hforms, hqueried.trans hforms, hlisted.trans hforms, (horder .country).2.1,
    hfirst, hsecond, hcontained.trans hcontained'⟩

end Selection

end FacetFilter
