import FacetFilter.Command.Display
import FacetFilter.Proofs.Query.RoundTrip
import FacetFilter.Proofs.Selection.MemberOrder
import FacetFilter.Proofs.Session.Toggles
import FacetFilter.Url.Reader

/-! What the lines for a page tell of its filters. Equal selections are shown alike. The other way
round, the text tells the members of each category, as no value of a page has a comma, but for two
things: a category without filters is shown by a dash, which may also be the only filter of one,
and a value may have a line feed in it and go on as the line of the next category begins. -/

namespace FacetFilter

open Text (commaJoined ofLines)

namespace Text

theorem toList_ofLines (lines : List String) :
    (ofLines lines).toList = lines.flatMap fun line => line.toList ++ ['\n'] := by
  simp [ofLines, String.toList_join, List.flatMap_map]

/-- Strings without commas can be told from what they are joined to. -/
theorem commaJoined_injective {parts other : List String} (h : ∀ p ∈ parts, ',' ∉ p.toList)
    (h' : ∀ p ∈ other, ',' ∉ p.toList) (hne : parts ≠ []) (hne' : other ≠ [])
    (he : commaJoined parts = commaJoined other) : parts = other := by
  have hlists : parts.map String.toList = other.map String.toList :=
    join_injective (by simpa using h) (by simpa using h') (by simpa using hne) (by simpa using hne')
      (String.ofList_injective he)
  exact List.map_injective_iff.mpr (fun _ _ => String.toList_inj.mp) hlists

end Text

namespace Display

/-- What the line of a category begins with. -/
def label (c : Category) : String := Text.padRight 10 c.key ++ " "

/-- A line feed and the label of a category. -/
def lineStart (c : Category) : List Char := '\n' :: (label c).toList

/-- What follows the label, for the members in their order. -/
def filtersText (members : List String) : String :=
  if members.isEmpty then "-" else commaJoined members

variable {s t : Session} {o : MemberOrder} {c d : Category} {ms ms' : List String}

/-! ## One line -/

theorem filterLine_eq (s : Session) (o : MemberOrder) (c : Category) :
    filterLine s o c = label c ++ filtersText ((s.baseline.listed o).get c) := by
  rw [Selection.listed, PerCategory.get_ofFun]
  rfl

theorem label_injective (h : label c = label d) : c = d := by
  cases c <;> cases d <;> first | rfl | exact absurd h (by decide)

theorem length_label (c : Category) : (label c).toList.length = 11 := by
  cases c <;> decide

/-- Lines that agree belong to one category, and they agree behind its label. -/
theorem filterLine_inj (h : filterLine s o c = filterLine t o d) :
    c = d ∧
      filtersText ((s.baseline.listed o).get c) = filtersText ((t.baseline.listed o).get d) := by
  rw [filterLine_eq, filterLine_eq, ← String.toList_inj, String.toList_append,
    String.toList_append] at h
  obtain ⟨hlabel, htext⟩ := List.append_inj h (by rw [length_label, length_label])
  exact ⟨label_injective (String.toList_inj.mp hlabel), String.toList_inj.mp htext⟩

theorem filtersText_dash : filtersText ["-"] = filtersText [] := by
  decide

theorem eq_dash_of_commaJoined (hcomma : ∀ m ∈ ms, ',' ∉ m.toList) (hne : ms ≠ [])
    (h : commaJoined ms = "-") : ms = ["-"] := by
  refine Text.commaJoined_injective hcomma (by decide) hne (List.cons_ne_nil _ _) ?_
  rw [h]
  decide

/-- The text behind a label tells the members, but for the dash. -/
theorem eq_or_dash_of_filtersText (hcomma : ∀ m ∈ ms, ',' ∉ m.toList)
    (hcomma' : ∀ m ∈ ms', ',' ∉ m.toList) (h : filtersText ms = filtersText ms') :
    ms = ms' ∨ (ms = [] ∧ ms' = ["-"]) ∨ (ms = ["-"] ∧ ms' = []) := by
  by_cases hms : ms = []
  · by_cases hms' : ms' = []
    · exact Or.inl (hms.trans hms'.symm)
    · rw [filtersText, filtersText, if_pos (by simpa using hms), if_neg (by simpa using hms')] at h
      exact Or.inr (Or.inl ⟨hms, eq_dash_of_commaJoined hcomma' hms' h.symm⟩)
  · rw [filtersText, if_neg (by simpa using hms)] at h
    by_cases hms' : ms' = []
    · rw [filtersText, if_pos (by simpa using hms')] at h
      exact Or.inr (Or.inr ⟨eq_dash_of_commaJoined hcomma hms h, hms'⟩)
    · rw [filtersText, if_neg (by simpa using hms')] at h
      exact Or.inl (Text.commaJoined_injective hcomma hcomma' hms hms' h)

/-! ## All lines -/

/-- The lines depend on the members alone, as they are listed. -/
theorem filterLines_eq (s : Session) (o : MemberOrder) :
    filterLines s o =
      Category.all.map fun c => label c ++ filtersText ((s.baseline.listed o).get c) :=
  List.map_congr_left fun c _ => filterLine_eq s o c

/-- No value goes on, after a line feed, as the line of the next category begins. -/
structure OnOwnLines (s : Selection) : Prop where
  country : ∀ m ∈ (s.get .country).members, ¬lineStart .asn <:+: m.toList
  asn : ∀ m ∈ (s.get .asn).members, ¬lineStart .service <:+: m.toList

theorem not_infix_filtersText {s : Selection} (o : MemberOrder)
    (h : ∀ m ∈ (s.get c).members, ¬lineStart d <:+: m.toList) :
    ¬lineStart d <:+: (filtersText ((s.listed o).get c)).toList := by
  intro hin
  unfold filtersText at hin
  split at hin
  · have hlength := hin.length_le
    rw [lineStart, List.length_cons, length_label] at hlength
    exact absurd hlength (by decide)
  · rw [commaJoined, String.toList_ofList] at hin
    have hcomma : ',' ∉ lineStart d := by cases d <;> decide
    obtain ⟨part, hpart, hin⟩ := Text.exists_infix_of_infix_join hcomma (List.cons_ne_nil _ _) hin
    obtain ⟨m, hm, rfl⟩ := List.mem_map.mp hpart
    exact h m (Selection.mem_listed.mp hm) hin

theorem toList_filterLines (s : Session) (o : MemberOrder) :
    (ofLines (filterLines s o)).toList = (label .country).toList ++
      ((filtersText ((s.baseline.listed o).get .country)).toList ++ (lineStart .asn ++
      ((filtersText ((s.baseline.listed o).get .asn)).toList ++ (lineStart .service ++
      ((filtersText ((s.baseline.listed o).get .service)).toList ++ ['\n']))))) := by
  rw [Text.toList_ofLines]
  simp [filterLines_eq, Category.all, lineStart]

/-- The lines tell what stands behind each label. -/
theorem filtersText_eq_of_filterLines (hs : OnOwnLines s.baseline) (ht : OnOwnLines t.baseline)
    (h : ofLines (filterLines s o) = ofLines (filterLines t o)) (c : Category) :
    filtersText ((s.baseline.listed o).get c) = filtersText ((t.baseline.listed o).get c) := by
  have hbreak : ∀ d, '\n' ∉ (label d).toList := by
    intro d
    cases d <;> decide
  rw [← String.toList_inj, toList_filterLines, toList_filterLines] at h
  obtain ⟨hfirst, hrest⟩ := Text.append_mark_inj (hbreak .asn)
    (not_infix_filtersText o hs.country) (not_infix_filtersText o ht.country)
    (List.append_cancel_left h)
  obtain ⟨hsecond, hrest⟩ := Text.append_mark_inj (hbreak .service)
    (not_infix_filtersText o hs.asn) (not_infix_filtersText o ht.asn) hrest
  cases c with
  | country => exact String.toList_inj.mp hfirst
  | asn => exact String.toList_inj.mp hsecond
  | service => exact String.toList_inj.mp (List.append_cancel_right hrest)

/-! ## Pages -/

section Pages

variable {lib : UrlLibrary}

theorem run_of_ofUrl {url : String} (h : Session.ofUrl lib url o = .ok s) (opened : Sections) :
    run lib url o opened none = ⟨filterLines s o, [], none⟩ := by
  rw [run, h]

theorem comma_notMem_listed {url : String} (h : Session.ofUrl lib url o = .ok s) :
    ∀ m ∈ (s.baseline.listed o).get c, ',' ∉ m.toList := by
  obtain ⟨u, -, rfl⟩ := Session.exists_page_of_ofUrl h
  intro m hm
  exact Selection.commaFree_ofQuery _ c m (Selection.mem_listed.mp hm)

theorem normal_baseline {url : String} (h : Session.ofUrl lib url o = .ok s) :
    s.baseline.Normal := by
  obtain ⟨u, -, rfl⟩ := Session.exists_page_of_ofUrl h
  exact Selection.normal_ofRaw _

theorem same_or_dash_of_filtersText {url url' : String} (hs : Session.ofUrl lib url o = .ok s)
    (ht : Session.ofUrl lib url' o = .ok t)
    (h : filtersText ((s.baseline.listed o).get c) = filtersText ((t.baseline.listed o).get c)) :
    (s.baseline.get c).same (t.baseline.get c) = true ∨
      ((s.baseline.get c).members = [] ∧ (t.baseline.get c).members = ["-"]) ∨
      ((s.baseline.get c).members = ["-"] ∧ (t.baseline.get c).members = []) := by
  have hperm := s.baseline.listed_perm o c
  have hperm' := t.baseline.listed_perm o c
  rcases eq_or_dash_of_filtersText (comma_notMem_listed hs) (comma_notMem_listed ht) h with
    heq | ⟨hnil, hdash⟩ | ⟨hdash, hnil⟩
  · refine Or.inl (MemberSet.same_iff.mpr fun m => ?_)
    rw [← Selection.mem_listed (o := o), heq, Selection.mem_listed]
  · rw [hnil] at hperm
    rw [hdash] at hperm'
    exact Or.inr (Or.inl ⟨List.nil_perm.mp hperm, List.perm_singleton.mp hperm'.symm⟩)
  · rw [hdash] at hperm
    rw [hnil] at hperm'
    exact Or.inr (Or.inr ⟨List.perm_singleton.mp hperm.symm, List.nil_perm.mp hperm'⟩)

/-- A line of a category without filters is also that of the same category with a dash alone. -/
theorem filterLine_eq_iff_of_nil {url url' : String} (hs : Session.ofUrl lib url o = .ok s)
    (ht : Session.ofUrl lib url' o = .ok t) (hc : (s.baseline.get c).members = [])
    (hd : (t.baseline.get d).members ≠ []) :
    filterLine s o c = filterLine t o d ↔ c = d ∧ (t.baseline.get d).members = ["-"] := by
  constructor
  · intro hline
    obtain ⟨rfl, htext⟩ := filterLine_inj hline
    rcases same_or_dash_of_filtersText hs ht htext with hsame | ⟨-, hdash⟩ | ⟨-, hnil⟩
    · have hperm := MemberSet.perm_of_same hsame
      rw [hc] at hperm
      exact absurd (List.nil_perm.mp hperm) hd
    · exact ⟨rfl, hdash⟩
    · exact absurd hnil hd
  · rintro ⟨rfl, hdash⟩
    rw [filterLine_eq, filterLine_eq, Selection.listed_of_length_le_one (by simp [hc]),
      Selection.listed_of_length_le_one (by simp [hdash]), hc, hdash, filtersText_dash]

/-- Every accepted page is shown by one line for each category. In sorted order equal selections
make the same text. The same text comes, as long as no value goes on after a line feed as the line
of the next category begins, from selections that are equal in every category, except that one of
them may have no filter where the other has a dash and nothing else. A line of a category without
filters is the line of no other category, and of the same category with filters only when these are
a dash and nothing else. -/
theorem text_tells_filters {url url' : String} {s t : Session}
    (hs : Session.ofUrl lib url .sorted = .ok s)
    (ht : Session.ofUrl lib url' .sorted = .ok t) (opened : Sections) :
    let shown := run lib url .sorted opened none
    let shown' := run lib url' .sorted opened none
    (shown.lines = Category.all.map (filterLine s .sorted) ∧ shown.failure? = none) ∧
    (s.baseline.same t.baseline = true → ofLines shown.lines = ofLines shown'.lines) ∧
    (OnOwnLines s.baseline → OnOwnLines t.baseline → ofLines shown.lines = ofLines shown'.lines →
      ∀ c, (s.baseline.get c).same (t.baseline.get c) = true ∨
        ((s.baseline.get c).members = [] ∧ (t.baseline.get c).members = ["-"]) ∨
        ((s.baseline.get c).members = ["-"] ∧ (t.baseline.get c).members = [])) ∧
    ∀ c d, (s.baseline.get c).isEmpty = true → (t.baseline.get d).isEmpty = false →
      (filterLine s .sorted c = filterLine t .sorted d ↔
        c = d ∧ (t.baseline.get d).members = ["-"]) := by
  intro shown shown'
  have hshown : shown = ⟨filterLines s .sorted, [], none⟩ := run_of_ofUrl hs opened
  have hshown' : shown' = ⟨filterLines t .sorted, [], none⟩ := run_of_ofUrl ht opened
  rw [hshown, hshown']
  refine ⟨⟨rfl, rfl⟩, fun hsame => ?_, fun hown hown' htext c => ?_, fun c d hc hd => ?_⟩
  · rw [filterLines_eq, filterLines_eq,
      Selection.listed_sorted_congr (normal_baseline hs) (normal_baseline ht) hsame]
  · exact same_or_dash_of_filtersText hs ht (filtersText_eq_of_filterLines hown hown' htext c)
  · have hd : (t.baseline.get d).members ≠ [] := by
      rwa [ne_eq, ← MemberSet.isEmpty_iff, Bool.not_eq_true]
    exact filterLine_eq_iff_of_nil hs ht (MemberSet.isEmpty_iff.mp hc) hd

/-- A page by the members that it has in each category. -/
theorem exists_ofUrl_of_members (lib : UrlLibrary) (url : String) (o : MemberOrder)
    (members : RawFilters) (h : (Session.ofUrl lib url o).toOption.map
      (fun s => PerCategory.ofFun fun c => (s.baseline.get c).members) = some members) :
    ∃ s, Session.ofUrl lib url o = .ok s ∧ ∀ c, (s.baseline.get c).members = members.get c := by
  obtain ⟨s, hs, hmembers⟩ := Text.exists_eq_ok_of_toOption h
  refine ⟨s, hs, fun c => ?_⟩
  rw [← hmembers, PerCategory.get_ofFun]

end Pages

/-- Other spellings and another order of the same filters make the same text, also where a value
has a line feed in it. Another filter makes another text, and having none another line. -/
theorem text_tells_filters_breaks :
    let lib := Url.asciiLibrary
    let url := "http://a/?countries=US%0A-,DE&asns=as007&services=a%0Aasns+++++++b"
    let url' := "http://b/c?services=a%0Aasns%20++++++b&asns=7&countries=+DE+&countries=US%0A-"
    let url'' := "http://a/?countries=US%0A-,DE&asns=as007,-"
    let text (url : String) := ofLines (run lib url .sorted .allOpen none).lines
    text url = text url' ∧ text url ≠ text url'' ∧
      ∃ s t, Session.ofUrl lib url .sorted = .ok s ∧ Session.ofUrl lib url'' .sorted = .ok t ∧
        filterLine t .sorted .service ≠ filterLine s .sorted .service := by
  intro lib url url' url'' text
  obtain ⟨s, hs, hmembers⟩ := exists_ofUrl_of_members lib url .sorted
    ⟨["DE", "US\n-"], ["AS7"], ["a\nasns       b"]⟩ (by decide +kernel)
  obtain ⟨s', hs', hmembers'⟩ := exists_ofUrl_of_members lib url' .sorted
    ⟨["US\n-", "DE"], ["AS7"], ["a\nasns       b"]⟩ (by decide +kernel)
  obtain ⟨t, ht, hmembers''⟩ := exists_ofUrl_of_members lib url'' .sorted
    ⟨["DE", "US\n-"], ["-", "AS7"], []⟩ (by decide +kernel)
  obtain ⟨-, hsame, -, -⟩ := text_tells_filters hs hs' .allOpen
  obtain ⟨-, -, htells, -⟩ := text_tells_filters hs ht .allOpen
  obtain ⟨-, -, -, hline⟩ := text_tells_filters ht hs .allOpen
  refine ⟨hsame (Selection.same_iff.mpr fun c m => ?_), fun htext => ?_, s, t, hs, ht, fun h => ?_⟩
  · rw [hmembers, hmembers']
    cases c with
    | country => exact List.Perm.mem_iff (List.Perm.swap _ _ [])
    | asn => exact Iff.rfl
    | service => exact Iff.rfl
  · have hown : OnOwnLines s.baseline := by
      constructor <;> rw [hmembers] <;> decide
    have hown' : OnOwnLines t.baseline := by
      constructor <;> rw [hmembers''] <;> decide
    have hasn := htells hown hown' htext .asn
    rw [MemberSet.same_iff, hmembers, hmembers''] at hasn
    rcases hasn with hsame | ⟨hnil, -⟩ | ⟨-, hnil⟩
    · exact absurd ((hsame "-").mpr (by decide)) (by decide)
    · exact absurd hnil (by decide)
    · exact absurd hnil (by decide)
  · have hnone : (t.baseline.get .service).isEmpty = true := by
      rw [MemberSet.isEmpty_iff, hmembers'']
      rfl
    have hsome : (s.baseline.get .service).isEmpty = false := by
      rw [← Bool.not_eq_true, MemberSet.isEmpty_iff, hmembers]
      decide
    have hdash := ((hline .service .service hnone hsome).mp h).2
    rw [hmembers] at hdash
    exact absurd hdash (by decide)

/-- Where no category has two members, the lines do not wait for an order. -/
theorem filterLines_of_members {members : RawFilters}
    (h : ∀ c, (s.baseline.get c).members = members.get c)
    (hone : ∀ c, (members.get c).length ≤ 1) :
    filterLines s o = Category.all.map fun c => label c ++ filtersText (members.get c) := by
  refine (filterLines_eq s o).trans (List.map_congr_left fun c _ => ?_)
  rw [Selection.listed_of_length_le_one (by rw [h c]; exact hone c), h c]

/-- A page without countries is shown like one on which a dash is the only country, and a country
with a line feed in it like an AS value that has one. -/
theorem text_hides_dash_and_break :
    let lib := Url.asciiLibrary
    (∃ s t, Session.ofUrl lib "http://a/?countries=-" .sorted = .ok s ∧
      Session.ofUrl lib "http://a/" .sorted = .ok t ∧
      ofLines (run lib "http://a/?countries=-" .sorted .allOpen none).lines =
        ofLines (run lib "http://a/" .sorted .allOpen none).lines ∧
      s.baseline.same t.baseline = false ∧
      filterLine s .sorted .country = filterLine t .sorted .country) ∧
    ∃ s t, Session.ofUrl lib "http://a/?countries=DE%0Aasns+++++++7&asns=9" .sorted = .ok s ∧
      Session.ofUrl lib "http://a/?countries=DE&asns=7%0Aasns+++++++AS9" .sorted = .ok t ∧
      ofLines (run lib "http://a/?countries=DE%0Aasns+++++++7&asns=9" .sorted .allOpen none).lines =
        ofLines
          (run lib "http://a/?countries=DE&asns=7%0Aasns+++++++AS9" .sorted .allOpen none).lines ∧
      s.baseline.same t.baseline = false := by
  intro lib
  constructor
  · obtain ⟨s, hs, hmembers⟩ := exists_ofUrl_of_members lib "http://a/?countries=-" .sorted
      ⟨["-"], [], []⟩ (by decide +kernel)
    obtain ⟨t, ht, hmembers'⟩ := exists_ofUrl_of_members lib "http://a/" .sorted
      ⟨[], [], []⟩ (by decide +kernel)
    have hlines : filterLines s .sorted = filterLines t .sorted := by
      rw [filterLines_of_members hmembers (fun c => by cases c <;> decide),
        filterLines_of_members hmembers' (fun c => by cases c <;> decide)]
      decide
    refine ⟨s, t, hs, ht, ?_, ?_, ?_⟩
    · rw [run_of_ofUrl hs, run_of_ofUrl ht, hlines]
    · rw [Bool.eq_false_iff, ne_eq, Selection.same_iff]
      intro hsame
      have hdash := hsame .country "-"
      rw [hmembers, hmembers'] at hdash
      exact absurd (hdash.mp (by decide)) (by decide)
    · exact (List.cons.inj hlines).1
  · obtain ⟨s, hs, hmembers⟩ :=
      exists_ofUrl_of_members lib "http://a/?countries=DE%0Aasns+++++++7&asns=9" .sorted
        ⟨["DE\nasns       7"], ["AS9"], []⟩ (by decide +kernel)
    obtain ⟨t, ht, hmembers'⟩ :=
      exists_ofUrl_of_members lib "http://a/?countries=DE&asns=7%0Aasns+++++++AS9" .sorted
        ⟨["DE"], ["7\nasns       AS9"], []⟩ (by decide +kernel)
    have hlines : ofLines (filterLines s .sorted) = ofLines (filterLines t .sorted) := by
      rw [filterLines_of_members hmembers (fun c => by cases c <;> decide),
        filterLines_of_members hmembers' (fun c => by cases c <;> decide)]
      decide
    refine ⟨s, t, hs, ht, ?_, ?_⟩
    · rw [run_of_ofUrl hs, run_of_ofUrl ht, hlines]
    · rw [Bool.eq_false_iff, ne_eq, Selection.same_iff]
      intro hsame
      have hcountry := hsame .country "DE"
      rw [hmembers, hmembers'] at hcountry
      exact absurd (hcountry.mpr (by decide)) (by decide)

end Display

end FacetFilter
