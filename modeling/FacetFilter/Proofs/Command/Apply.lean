import FacetFilter.Command.Apply
import FacetFilter.Proofs.Navigation
import FacetFilter.Proofs.Query.Page
import FacetFilter.Proofs.Selection.MemberOrder
import FacetFilter.Proofs.Session.Arrival

/-! Applying toggles, from the text of a page's URL to the line that is shown. A text that is no URL
is refused. On every page the command succeeds, whenever the navigation task is polled: what is
committed comes to a URL, and that URL is accepted when the session goes on from it. The line
depends on the filters of the page and on the toggles alone. -/

namespace FacetFilter

namespace Request

/-- The request that lists these members; a category without any has no parameter. -/
def ofMembers (left : RawFilters) : Request where
  parameters := Category.all.filterMap fun c =>
    if (left.get c).isEmpty then none else some ⟨c, left.get c⟩

theorem ofMembers_listed (s : Selection) (o : MemberOrder) :
    ofMembers (s.listed o) = ofSelection s o := by
  have hempty : ∀ c, ((s.get c).ordered c o).isEmpty = (s.get c).isEmpty := by
    intro c
    rw [Bool.eq_iff_iff, List.isEmpty_iff, MemberSet.isEmpty_iff, ← List.length_eq_zero_iff,
      ((s.get c).ordered_perm c o).length_eq, List.length_eq_zero_iff]
  simp only [ofMembers, ofSelection, Selection.listed, PerCategory.get_ofFun, hempty]

theorem isEmpty_ofMembers {left : RawFilters} :
    (ofMembers left).isEmpty = true ↔ left = .none := by
  simp only [isEmpty, ofMembers, List.isEmpty_iff, List.filterMap_eq_nil_iff, ite_eq_left_iff,
    reduceCtorEq, imp_false, not_not]
  constructor
  · intro h
    exact PerCategory.ext_get fun c => (h c (Category.mem_all c)).trans (by cases c <;> rfl)
  · rintro rfl c -
    cases c <;> rfl

end Request

/-- The URL that a request leads to is one line of text, and it names a scheme. -/
theorem UrlLibrary.Lawful.text_target {lib : UrlLibrary} (hlib : lib.Lawful) {u : lib.Parsed}
    (h : lib.Made u) (r : Request) :
    '\n' ∉ (lib.text (lib.target u r)).toList ∧ ':' ∈ (lib.text (lib.target u r)).toList := by
  have htarget := h.target r
  have hparts := hlib.wellFormed _ htarget
  have hfragment : (lib.parts (lib.target u r)).fragment = none := by rw [hlib.parts_target h]
  rw [hlib.text_eq _ htarget]
  exact ⟨fun hm => absurd (hparts.inRootless_chars hfragment hm) (by decide),
    hparts.colon_mem_chars⟩

namespace Apply

/-- What toggles make of one category of a page, as it is listed: the values of the page, with those
that are toggled an odd number of times on the other side. In order of arrival the values that are
never toggled come first, as they first appear, and then the toggled ones, by their last toggles. -/
structure Outcome (raw : RawFilters) (ts : List Toggle) (o : MemberOrder) (c : Category)
    (ms : List String) : Prop where
  nodup : ms.Nodup
  mem_iff : ∀ m, m ∈ ms ↔
    Xor (∃ v ∈ raw.get c, normalForm? c v = some m) (flips ts c m % 2 = 1)
  sorted : o = .sorted → ms.Pairwise fun v w => MemberOrder.le c v w = true
  arrival : o = .insertion → ms = (raw.normalForms c).eraseDups.filter (· ∉ flipped ts c) ++
    (flipped ts c).dedup.filter (· ∈ ms)

namespace Outcome

variable {raw : RawFilters} {ts : List Toggle} {o : MemberOrder} {c : Category}
  {ms ms' : List String} {m : String}

theorem normal (h : Outcome raw ts o c ms) (hm : m ∈ ms) : normalForm? c m = some m := by
  rcases (h.mem_iff m).mp hm with ⟨⟨v, -, hv⟩, -⟩ | ⟨hodd, -⟩
  · exact normalForm?_normalForm hv
  · have hpos : 0 < flips ts c m := by omega
    obtain ⟨t, -, ht⟩ := List.countP_pos_iff.mp hpos
    exact normalForm?_normalForm (of_decide_eq_true ht).2

/-- In order of arrival the outcome can be read off the page and the toggles. -/
theorem eq_of_insertion (h : Outcome raw ts .insertion c ms) :
    ms = (raw.normalForms c).eraseDups.filter (· ∉ flipped ts c) ++
      (flipped ts c).dedup.filter fun m =>
        decide (Xor (∃ v ∈ raw.get c, normalForm? c v = some m) (flips ts c m % 2 = 1)) := by
  rw [h.arrival rfl]
  simp only [h.mem_iff]

/-- Sorted, the outcome has the members that it has in order of arrival. -/
theorem of_perm (h : Outcome raw ts .insertion c ms) (hperm : ms'.Perm ms)
    (hsorted : ms'.Pairwise fun v w => MemberOrder.le c v w = true) :
    Outcome raw ts .sorted c ms' :=
  ⟨hperm.symm.nodup h.nodup, fun m => hperm.mem_iff.trans (h.mem_iff m), fun _ => hsorted, nofun⟩

/-- There is one outcome only. -/
theorem unique (h : Outcome raw ts o c ms) (h' : Outcome raw ts o c ms') : ms = ms' := by
  cases o with
  | sorted =>
    have hmem : ∀ m, m ∈ ms ↔ m ∈ ms' := fun m => (h.mem_iff m).trans (h'.mem_iff m).symm
    refine List.Perm.eq_of_pairwise (fun v w hv hw => ?_) (h.sorted rfl) (h'.sorted rfl)
      ((List.perm_ext_iff_of_nodup h.nodup h'.nodup).mpr hmem)
    exact MemberOrder.le_antisymm (h.normal hv) (h'.normal hw)
  | insertion => rw [h.eq_of_insertion, h'.eq_of_insertion]

end Outcome

/-- A selection from the filters of a page lists the outcome of its toggles. -/
theorem outcome_toggleAll (raw : RawFilters) (ts : List Toggle) (o : MemberOrder) (c : Category) :
    Outcome raw ts o c ((((Selection.ofRaw raw).toggleAll ts).listed o).get c) := by
  rw [Selection.listed, PerCategory.get_ofFun]
  have hperm := (((Selection.ofRaw raw).toggleAll ts).get c).ordered_perm c o
  refine ⟨hperm.symm.nodup (MemberSet.nodup_members _), fun m => ?_, ?_, ?_⟩
  · rw [hperm.mem_iff, Selection.mem_toggleAll, Selection.mem_ofRaw]
  · rintro rfl
    exact MemberSet.pairwise_ordered_sorted _ c
  · rintro rfl
    simp only [hperm.mem_iff]
    exact Selection.inArrivalOrder_toggleAll_ofRaw raw ts c

variable {lib : UrlLibrary} {url : String} {page : lib.Parsed} {s : Session}

/-! ## The commit and its navigation -/

/-- Without changes nothing is handed out, and the navigation ends without a URL. -/
theorem commit_of_not_isDirty (h : s.isDirty = false) (polls : Polls) (page : lib.Parsed) :
    commit lib polls page s = (⟨false, [], s, ⟨page, .new⟩⟩, .ok none) := by
  have hnew : Task.Receives [] .waiting (Channel.new : Channel lib.Parsed) := .waiting
  unfold commit
  rw [Task.pollTimes_new]
  dsimp only
  rw [Session.commitWith_of_not_canCommit (Session.canCommit_of_not_isDirty h)]
  exact Prod.ext rfl (hnew.pollTimes polls.beforeClose).join

/-- Changes are handed out, unless a commit is in flight, as the query of the working selection, and
the navigation receives the URL that this leads to. -/
theorem commit_of_isDirty (h : s.isDirty = true) (hidle : s.inFlight = false) (polls : Polls)
    (page : lib.Parsed) :
    let r := Request.ofSelection s.working s.order
    let target := lib.target page r
    commit lib polls page s =
      (⟨true, [.committed r.text, .navigating (lib.text target)], { s with inFlight := true },
        ⟨page, ⟨[target], true, true⟩⟩⟩, .ok (some target)) := by
  intro r target
  have hnew : Task.Receives [] .waiting (Channel.new : Channel lib.Parsed) := .waiting
  unfold commit
  rw [Task.pollTimes_new]
  dsimp only
  rw [Session.commitWith_of_canCommit (Session.canCommit_of_isDirty h hidle),
    Navigator.navigate_of_hasReceiver rfl]
  exact Prod.ext rfl ((hnew.send target).pollTimes polls.beforeClose).join

/-! ## The command -/

theorem run_of_parse_error {flaw : Url.Flaw} (h : lib.parse url = .error flaw) (polls : Polls)
    (ts : List Toggle) (o : MemberOrder) :
    run lib polls url ts o = .failed (.badUrl ⟨url, flaw⟩) := by
  have hpage : lib.page url = .error ⟨url, flaw⟩ := by rw [UrlLibrary.page, h]; rfl
  simp only [run, hpage]

theorem lines_reload (s : Session) (target : lib.Parsed) :
    (reload lib s target).lines = [lib.text target] := by
  unfold reload
  dsimp only
  split <;> rfl

/-- A session goes on from every URL that a request leads to. -/
theorem failure?_reload_target (hlib : lib.Lawful) (h : lib.Made page) (s : Session)
    (r : Request) : (reload lib s (lib.target page r)).failure? = none := by
  unfold reload
  dsimp only
  rw [hlib.ofUrl_target h]

/-- On an accepted page the command succeeds with one line, the URL that the selection leads to if
it is not that of the page. -/
theorem run_of_page (hlib : lib.Lawful) (h : lib.page url = .ok page) (polls : Polls)
    (ts : List Toggle) (o : MemberOrder) :
    let s := (Session.start (lib.filters page) o).toggleAll ts
    (run lib polls url ts o).failure? = none ∧ (run lib polls url ts o).lines =
      [if s.isDirty then lib.text (lib.target page (.ofSelection s.working o))
        else "No filter changes."] := by
  have hsession : Session.ofUrl lib url o = .ok (.start (lib.filters page) o) := by
    rw [Session.ofUrl, RawFilters.ofUrl, h]
    rfl
  have hidle := Session.inFlight_toggleAll (.start (lib.filters page) o) ts
  have horder := Session.order_toggleAll (.start (lib.filters page) o) ts
  unfold run
  rw [h, hsession]
  dsimp only
  rw [Session.snd_applyToggleAll]
  cases hdirty : ((Session.start (lib.filters page) o).toggleAll ts).isDirty with
  | true =>
    rw [commit_of_isDirty hdirty hidle, horder, if_pos rfl]
    dsimp only [Report.after]
    rw [if_neg (by decide)]
    exact ⟨failure?_reload_target hlib (UrlLibrary.made_of_page h) _ _, lines_reload _ _⟩
  | false =>
    rw [commit_of_not_isDirty hdirty]
    exact ⟨rfl, rfl⟩

theorem lines_run_of_even (hlib : lib.Lawful) (h : lib.page url = .ok page) {ts : List Toggle}
    (heven : ∀ c m, flips ts c m % 2 ≠ 1) (polls : Polls) (o : MemberOrder) :
    (run lib polls url ts o).lines = ["No filter changes."] := by
  have hclean := Session.isDirty_toggleAll_eq_false_iff
    (Session.isDirty_start (lib.filters page) o) ts
  rw [(run_of_page hlib h polls ts o).2, hclean.mpr heven, if_neg (by decide)]

theorem lines_run_of_odd (hlib : lib.Lawful) (h : lib.page url = .ok page) {ts : List Toggle}
    (hodd : ∃ c m, flips ts c m % 2 = 1) (polls : Polls) (o : MemberOrder) :
    (run lib polls url ts o).lines = [lib.text (lib.target page
      (.ofMembers (((Selection.ofRaw (lib.filters page)).toggleAll ts).listed o)))] := by
  have hclean := Session.isDirty_toggleAll_eq_false_iff
    (Session.isDirty_start (lib.filters page) o) ts
  have hdirty : ((Session.start (lib.filters page) o).toggleAll ts).isDirty = true := by
    rw [← Bool.not_eq_false, hclean]
    obtain ⟨c, m, hm⟩ := hodd
    exact fun heven => heven c m hm
  rw [(run_of_page hlib h polls ts o).2, if_pos hdirty, Session.working_toggleAll,
    Request.ofMembers_listed]
  rfl

/-- A text that is no URL is refused by its name, and nothing is shown. On every page the command
succeeds with one line. It says that nothing changed exactly when the toggles cancel in pairs. After
any other toggles it is the URL of the page, but for the fragment, which is gone, for the query,
which asks for the outcome in every category, or is absent when all of them are empty, and for
spaces at the end of an opaque path. When the navigation task is polled does not matter. -/
theorem report_of_run (hlib : lib.Lawful) (polls : Polls) (url : String) (ts : List Toggle)
    (o : MemberOrder) :
    let report := run lib polls url ts o
    (∀ flaw, lib.parse url = .error flaw →
      report.lines = [] ∧ report.failure? = some (.badUrl ⟨url, flaw⟩)) ∧
    (∀ page, lib.parse url = .ok page →
      report.failure? = none ∧
      ∃ line, report.lines = [line] ∧ '\n' ∉ line.toList ∧
        (line = "No filter changes." ↔ ∀ c m, flips ts c m % 2 = 0) ∧
        ((∃ c m, flips ts c m % 2 = 1) →
          ∃ left, (∀ c, Outcome (lib.filters page) ts o c (left.get c)) ∧
            line = lib.text (lib.target page (.ofMembers left)) ∧
            line.toList = ((lib.parts page).withoutFragment.withQuery
              (if left = .none then none else some (Request.ofMembers left).query)).chars)) := by
  intro report
  refine ⟨fun flaw h => ?_, fun page h => ?_⟩
  · rw [show report = _ from run_of_parse_error h polls ts o]
    exact ⟨rfl, rfl⟩
  · have hpage := UrlLibrary.page_eq_ok_iff.mpr h
    have hmade := UrlLibrary.made_of_page hpage
    refine ⟨(run_of_page hlib hpage polls ts o).1, ?_⟩
    by_cases hodd : ∃ c m, flips ts c m % 2 = 1
    · obtain ⟨hbreak, hcolon⟩ := hlib.text_target hmade
        (.ofMembers (((Selection.ofRaw (lib.filters page)).toggleAll ts).listed o))
      refine ⟨_, lines_run_of_odd hlib hpage hodd polls o, hbreak,
        ⟨fun hline => ?_, fun heven => ?_⟩, fun _ =>
        ⟨_, outcome_toggleAll (lib.filters page) ts o, rfl, ?_⟩⟩
      -- The URL has a colon, which the other line has not.
      · rw [hline] at hcolon
        exact absurd hcolon (by decide)
      · obtain ⟨c, m, hm⟩ := hodd
        rw [heven] at hm
        cases hm
      · rw [hlib.text_eq _ (hmade.target _), hlib.parts_target_eq hmade, Request.query?]
        simp only [Request.isEmpty_ofMembers]
    · have heven : ∀ c m, flips ts c m % 2 ≠ 1 := fun c m hm => hodd ⟨c, m, hm⟩
      exact ⟨_, lines_run_of_even hlib hpage heven polls o, by decide,
        iff_of_true rfl fun c m => Nat.mod_two_ne_one.mp (heven c m), fun h => absurd h hodd⟩

/-- Values that are toggled twice stay in the query, but in order of arrival they stand behind those
that are not toggled. -/
theorem report_of_run_moved :
    let lib := Url.asciiLibrary
    let url := "https://rigour.example/hosts?countries=US,DE%2CFR&asns=12#top"
    let ts : List Toggle := [⟨.country, "FR"⟩, ⟨.country, "DE"⟩, ⟨.asn, "as007"⟩,
      ⟨.country, " FR "⟩, ⟨.country, "DE"⟩]
    (run lib ⟨3, 0⟩ url ts .insertion).lines =
        ["https://rigour.example/hosts?countries=US,FR,DE&asns=AS12,AS7"] ∧
      (run lib ⟨0, 1⟩ url ts .sorted).lines =
        ["https://rigour.example/hosts?countries=DE,FR,US&asns=AS7,AS12"] := by
  intro lib url ts
  have hread : (lib.parse url).toOption.map (fun page => (lib.filters page,
      lib.text (lib.target page (.ofMembers ⟨["US", "FR", "DE"], ["AS12", "AS7"], []⟩)),
      lib.text (lib.target page (.ofMembers ⟨["DE", "FR", "US"], ["AS7", "AS12"], []⟩)))) =
      some (⟨["US", "DE", "FR"], ["12"], []⟩,
        "https://rigour.example/hosts?countries=US,FR,DE&asns=AS12,AS7",
        "https://rigour.example/hosts?countries=DE,FR,US&asns=AS7,AS12") := by decide +kernel
  obtain ⟨page, hpage, hparts⟩ := Text.exists_eq_ok_of_toOption hread
  obtain ⟨hfilters, htexts⟩ := Prod.mk.inj hparts
  obtain ⟨harrival, hsorted⟩ := Prod.mk.inj htexts
  have hodd : ∃ c m, flips ts c m % 2 = 1 := ⟨.asn, "AS7", by decide +kernel⟩
  obtain ⟨-, line, hlines, -, -, hleft⟩ :=
    (report_of_run Url.lawful_asciiLibrary ⟨3, 0⟩ url ts .insertion).2 page hpage
  obtain ⟨-, line', hlines', -, -, hleft'⟩ :=
    (report_of_run Url.lawful_asciiLibrary ⟨0, 1⟩ url ts .sorted).2 page hpage
  obtain ⟨left, houtcome, hline, -⟩ := hleft hodd
  obtain ⟨left', houtcome', hline', -⟩ := hleft' hodd
  have hmembers : left = ⟨["US", "FR", "DE"], ["AS12", "AS7"], []⟩ := by
    refine PerCategory.ext_get fun c => ?_
    rw [(houtcome c).eq_of_insertion, hfilters]
    cases c <;> decide +kernel
  have hmembers' : left' = ⟨["DE", "FR", "US"], ["AS7", "AS12"], []⟩ := by
    refine PerCategory.ext_get fun c => ?_
    refine (houtcome' c).unique ((houtcome c).of_perm ?_ ?_)
    · rw [hmembers]
      cases c <;> decide
    · cases c <;> decide +kernel
  rw [hlines, hlines', hline, hline', hmembers, hmembers', harrival, hsorted]
  exact ⟨rfl, rfl⟩

end Apply

end FacetFilter
