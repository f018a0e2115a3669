import FacetFilter.Command.Report
import FacetFilter.Proofs.Navigation
import FacetFilter.Proofs.Query.Page

/-! Rounds of filtering, each of which goes on from the URL that the one before led to. The
session that is carried along in URLs never holds more than sets with values flipped: a step
keeps page and session in agreement, so after any rounds the selection is the first page's, with
the values changed that were toggled an odd number of times in all. -/

namespace FacetFilter

/-- A page, by the text of its URL, and the session on it. -/
structure Visit where
  page : String
  session : Session

/-- What a round came to: whether its commit was handed out, the URLs that were sent into the
channel, and where it left page and session. -/
structure Round (lib : UrlLibrary) where
  handedOut : Bool
  delivered : List lib.Parsed
  visit : Visit

namespace Visit

/-- One round: toggles, then a commit on the navigation from the page. When it is handed out, the
URL received is the next page, and the session goes on from there. -/
def round (lib : UrlLibrary) (v : Visit) (ts : List Toggle) : Except Failure (Round lib) := do
  let page ← (lib.page v.page).mapError .badUrl
  let committed := (Apply.toggleAll v.session ts).2.commitWith ⟨page, .new⟩
  let channel := committed.navigator.channel
  if committed.handedOut then
    match channel.receive with
    | (.value target, _) =>
      let raw ← (RawFilters.ofUrl lib (lib.text target)).mapError .badUrl
      return ⟨true, channel.waiting, ⟨lib.text target, committed.session.restart raw⟩⟩
    | _ => throw .noTarget
  else return ⟨false, channel.waiting, ⟨v.page, committed.session⟩⟩

/-- Rounds one after another. -/
def rounds (lib : UrlLibrary) (v : Visit) (tss : List (List Toggle)) : Except Failure Visit :=
  tss.foldlM (fun v ts => (v.round lib ts).map Round.visit) v

/-- What holds between rounds, after toggles from the selection of the first page: the page is
accepted, nothing is in flight or uncommitted, and the selection is the first one with the
values flipped that were toggled an odd number of times. -/
structure Follows (lib : UrlLibrary) (first : Selection) (past : List Toggle) (v : Visit) :
    Prop where
  accepted : ∃ u, lib.page v.page = .ok u
  idle : v.session.inFlight = false
  clean : v.session.isDirty = false
  normal : v.session.working.Normal
  commaFree : v.session.working.CommaFree
  mem_iff : ∀ c m, m ∈ (v.session.working.get c).members ↔
    Xor (m ∈ (first.get c).members) (flips past c m % 2 = 1)

variable {lib : UrlLibrary} {first : Selection} {past : List Toggle} {v : Visit} {u : lib.Parsed}

theorem round_of_not_isDirty (hpage : lib.page v.page = .ok u) {ts : List Toggle}
    (h : (v.session.toggleAll ts).isDirty = false) :
    v.round lib ts = .ok ⟨false, [], ⟨v.page, v.session.toggleAll ts⟩⟩ := by
  rw [round, hpage, Session.snd_applyToggleAll]
  dsimp only [Except.mapError, bind, Except.bind]
  rw [Session.commitWith_of_not_canCommit (Session.canCommit_of_not_isDirty h)]
  rfl

theorem round_of_isDirty (hlib : lib.Lawful) (hpage : lib.page v.page = .ok u) {ts : List Toggle}
    (h : (v.session.toggleAll ts).isDirty = true)
    (hidle : (v.session.toggleAll ts).inFlight = false) :
    let s := v.session.toggleAll ts
    let target := lib.target u (.ofSelection s.working s.order)
    v.round lib ts =
      .ok ⟨true, [target], ⟨lib.text target, s.restart (s.working.relisted s.order)⟩⟩ := by
  intro s target
  have hraw : RawFilters.ofUrl lib (lib.text target) = .ok (s.working.relisted s.order) := by
    rw [hlib.ofUrl_target (UrlLibrary.made_of_page hpage), Selection.ofQuery_query]
  rw [round, hpage, Session.snd_applyToggleAll]
  dsimp only [Except.mapError, bind, Except.bind]
  rw [Session.commitWith_of_canCommit (Session.canCommit_of_isDirty h hidle),
    Navigator.navigate_of_hasReceiver rfl]
  dsimp only [Channel.send, Channel.new, Channel.receive]
  rw [if_pos rfl, if_pos rfl]
  dsimp only [List.nil_append]
  rw [hraw]
  rfl

/-- The session that goes on from the URL of its own commit holds the same sets. -/
theorem follows_reloaded (hlib : lib.Lawful) {s : Session} (hu : lib.Made u)
    (hnormal : s.working.Normal) (hcomma : s.working.CommaFree)
    (hmem : ∀ c m, m ∈ (s.working.get c).members ↔
      Xor (m ∈ (first.get c).members) (flips past c m % 2 = 1)) :
    Follows lib first past ⟨lib.text (lib.target u (.ofSelection s.working s.order)),
      s.restart (s.working.relisted s.order)⟩ where
  accepted := by
    obtain ⟨next, hnext, -⟩ := hlib.page_target hu (.ofSelection s.working s.order)
    exact ⟨next, hnext⟩
  idle := rfl
  clean := s.isDirty_restart _
  normal := Selection.normal_ofRaw _
  commaFree := s.working.commaFree_relisted s.order
  mem_iff c m := by
    have hsame := (Selection.same_ofRaw_relisted_iff (o := s.order) hnormal).mpr hcomma
    exact (Selection.same_iff.mp hsame c m).trans (hmem c m)

/-- One round neither fails nor leaves page and session in disagreement. It leads to another page
exactly when it flips some value an odd number of times. -/
theorem Follows.round (hlib : lib.Lawful) (h : v.Follows lib first past) {ts : List Toggle}
    (hts : ∀ t ∈ ts, ',' ∉ t.value.toList) :
    ∃ r, v.round lib ts = .ok r ∧ r.visit.Follows lib first (past ++ ts) ∧
      (r.handedOut = true ↔ ∃ c m, flips ts c m % 2 = 1) ∧
      (r.handedOut = true → ∃ target, r.delivered = [target] ∧ r.visit.page = lib.text target) ∧
      (r.handedOut = false → r.delivered = [] ∧ r.visit.page = v.page) := by
  obtain ⟨u, hu⟩ := h.accepted
  have heq := v.session.toggleAll_eq ts
  have hidle : (v.session.toggleAll ts).inFlight = false := by rw [heq]; exact h.idle
  have hworking : (v.session.toggleAll ts).working = v.session.working.toggleAll ts := by rw [heq]
  have hnormal : (v.session.toggleAll ts).working.Normal := hworking ▸ h.normal.toggleAll ts
  have hcomma : (v.session.toggleAll ts).working.CommaFree := hworking ▸ h.commaFree.toggleAll hts
  have hmem : ∀ c m, m ∈ ((v.session.toggleAll ts).working.get c).members ↔
      Xor (m ∈ (first.get c).members) (flips (past ++ ts) c m % 2 = 1) := by
    intro c m
    rw [hworking, Selection.mem_toggleAll, h.mem_iff, xor_flips_append]
  -- Nothing is in flight, so whether the round leads on depends on the toggles alone.
  have hflips := Session.isDirty_toggleAll_eq_false_iff h.clean ts
  cases hd : (v.session.toggleAll ts).isDirty with
  | false =>
    have hnone : ¬∃ c m, flips ts c m % 2 = 1 := fun ⟨c, m, hodd⟩ => hflips.mp hd c m hodd
    exact ⟨_, round_of_not_isDirty hu hd, ⟨⟨u, hu⟩, hidle, hd, hnormal, hcomma, hmem⟩,
      ⟨nofun, fun hodd => absurd hodd hnone⟩, nofun, fun _ => ⟨rfl, rfl⟩⟩
  | true =>
    have hsome : ∃ c m, flips ts c m % 2 = 1 := by
      by_contra hnone
      have hclean := hflips.mpr fun c m hodd => hnone ⟨c, m, hodd⟩
      rw [hd] at hclean
      cases hclean
    exact ⟨_, round_of_isDirty hlib hu hd hidle,
      follows_reloaded hlib (UrlLibrary.made_of_page hu) hnormal hcomma hmem,
      ⟨fun _ => hsome, fun _ => rfl⟩, fun _ => ⟨_, rfl, rfl⟩, nofun⟩

/-- Any number of rounds keeps page and session in agreement. -/
theorem Follows.rounds (hlib : lib.Lawful) (h : v.Follows lib first past)
    {tss : List (List Toggle)} (htss : ∀ ts ∈ tss, ∀ t ∈ ts, ',' ∉ t.value.toList) :
    ∃ w, v.rounds lib tss = .ok w ∧ w.Follows lib first (past ++ tss.flatten) := by
  induction tss generalizing v past with
  | nil => exact ⟨v, rfl, by simpa using h⟩
  | cons ts tss ih =>
    rw [List.forall_mem_cons] at htss
    obtain ⟨r, hr, hfollows, -⟩ := h.round hlib htss.1
    obtain ⟨w, hw, hlast⟩ := ih hfollows htss.2
    refine ⟨w, ?_, ?_⟩
    · rw [Visit.rounds, List.foldlM_cons, hr]
      exact hw
    · rwa [List.flatten_cons, ← List.append_assoc]

theorem follows_ofUrl {url : String} {o : MemberOrder} {s : Session}
    (h : Session.ofUrl lib url o = .ok s) : Follows lib s.baseline [] ⟨url, s⟩ := by
  obtain ⟨u, hu, rfl⟩ := Session.exists_page_of_ofUrl h
  exact ⟨⟨u, hu⟩, rfl, Session.isDirty_start _ _, Selection.normal_ofRaw _,
    Selection.commaFree_ofQuery _, fun c m => by simp [flips, xor_def]; rfl⟩

theorem Follows.mem_baseline_iff (h : v.Follows lib first past) (c : Category) (m : String) :
    m ∈ (v.session.baseline.get c).members ↔
      Xor (m ∈ (first.get c).members) (flips past c m % 2 = 1) :=
  (Session.isDirty_eq_false_iff.mp h.clean c m).symm.trans (h.mem_iff c m)

/-- The same toggles once more undo a round that led to another page. -/
theorem Follows.round_again (hlib : lib.Lawful) (h : v.Follows lib first past) {w : Visit}
    {ts : List Toggle} (hw : w.Follows lib first (past ++ ts))
    (hts : ∀ t ∈ ts, ',' ∉ t.value.toList) (hodd : ∃ c m, flips ts c m % 2 = 1) :
    ∃ r, w.round lib ts = .ok r ∧ r.handedOut = true ∧
      r.visit.session.baseline.same v.session.baseline = true ∧
      r.visit.session.working.same v.session.baseline = true := by
  obtain ⟨r, hr, hfollows, hout, -⟩ := hw.round hlib hts
  have heven : ∀ c m, flips (past ++ ts ++ ts) c m % 2 = flips past c m % 2 := by
    intro c m
    rw [flips_append, flips_append]
    omega
  refine ⟨r, hr, hout.mpr hodd, Selection.same_iff.mpr fun c m => ?_,
    Selection.same_iff.mpr fun c m => ?_⟩
  · rw [hfollows.mem_baseline_iff, heven, h.mem_baseline_iff]
  · rw [hfollows.mem_iff, heven, h.mem_baseline_iff]

/-- From any accepted page, in either order and through any rounds of toggles without commas, no
round fails, and a round leads to another page exactly when it flips some value an odd number of
times. Then both selections are that of the first page, with exactly the values changed that were
flipped an odd number of times in all rounds; otherwise nothing is left uncommitted. The toggles
of a round that led to another page, made once more, lead to the selection before it. -/
theorem selections_after_rounds (hlib : lib.Lawful) {url : String} {o : MemberOrder} {s : Session}
    (hurl : Session.ofUrl lib url o = .ok s) {tss : List (List Toggle)} {ts : List Toggle}
    (htss : ∀ ts ∈ tss, ∀ t ∈ ts, ',' ∉ t.value.toList) (hts : ∀ t ∈ ts, ',' ∉ t.value.toList) :
    ∃ v r, rounds lib ⟨url, s⟩ tss = .ok v ∧ v.round lib ts = .ok r ∧
      (r.handedOut = true ↔ ∃ c m, flips ts c m % 2 = 1) ∧
      (r.handedOut = true →
        (∃ target, r.delivered = [target] ∧ r.visit.page = lib.text target) ∧
        ∀ c m,
          (m ∈ (r.visit.session.baseline.get c).members ↔
            Xor (m ∈ (s.baseline.get c).members) (flips (tss.flatten ++ ts) c m % 2 = 1)) ∧
          (m ∈ (r.visit.session.working.get c).members ↔
            Xor (m ∈ (s.baseline.get c).members) (flips (tss.flatten ++ ts) c m % 2 = 1))) ∧
      (r.handedOut = false → r.delivered = [] ∧ r.visit.page = v.page ∧
        r.visit.session.working.same r.visit.session.baseline = true) ∧
      (r.handedOut = true → ∃ r', r.visit.round lib ts = .ok r' ∧ r'.handedOut = true ∧
        r'.visit.session.baseline.same v.session.baseline = true ∧
        r'.visit.session.working.same v.session.baseline = true) := by
  obtain ⟨v, hv, hbefore⟩ := (follows_ofUrl hurl).rounds hlib htss
  rw [List.nil_append] at hbefore
  obtain ⟨r, hr, hafter, hout, hthere, hnowhere⟩ := hbefore.round hlib hts
  refine ⟨v, r, hv, hr, hout, fun hyes => ⟨hthere hyes, fun c m => ?_⟩, fun hno => ?_,
    fun hyes => ?_⟩
  · exact ⟨hafter.mem_baseline_iff c m, hafter.mem_iff c m⟩
  · obtain ⟨hdelivered, hpage⟩ := hnowhere hno
    exact ⟨hdelivered, hpage, Selection.same_iff.mpr (Session.isDirty_eq_false_iff.mp hafter.clean)⟩
  · exact hbefore.round_again hlib hafter hts (hout.mp hyes)

/-- Spellings of one value count as one, and what is toggled twice stays. -/
theorem selections_after_rounds_spellings :
    let lib := Url.asciiLibrary
    let url := "https://rigour.example/hosts?countries=US,DE&page=4#top"
    ∃ s v r, Session.ofUrl lib url .sorted = .ok s ∧
      rounds lib ⟨url, s⟩
        [[⟨.country, " US "⟩, ⟨.asn, "as007"⟩], [⟨.service, "R&D"⟩, ⟨.service, "R&D "⟩]] = .ok v ∧
      v.round lib [⟨.asn, "7"⟩, ⟨.service, "100% é"⟩] = .ok r ∧ r.handedOut = true ∧
      "DE" ∈ (r.visit.session.baseline.get .country).members ∧
      "US" ∉ (r.visit.session.baseline.get .country).members ∧
      "AS7" ∉ (r.visit.session.baseline.get .asn).members ∧
      "R&D" ∉ (r.visit.session.baseline.get .service).members ∧
      "100% é" ∈ (r.visit.session.baseline.get .service).members := by
  intro lib url
  have hfirst : (Session.ofUrl lib url .sorted).toOption.map (fun s => Category.all.map fun c =>
      (s.baseline.get c).members) = some [["DE", "US"], [], []] := by decide +kernel
  cases hurl : Session.ofUrl lib url .sorted with
  | error e =>
    rw [hurl] at hfirst
    cases hfirst
  | ok s =>
    rw [hurl] at hfirst
    obtain ⟨v, r, hv, hr, hout, hthere, -, -⟩ := @selections_after_rounds lib
      Url.lawful_asciiLibrary url .sorted s hurl
      [[⟨.country, " US "⟩, ⟨.asn, "as007"⟩], [⟨.service, "R&D"⟩, ⟨.service, "R&D "⟩]]
      [⟨.asn, "7"⟩, ⟨.service, "100% é"⟩] (by decide) (by decide)
    have hyes : r.handedOut = true := hout.mpr ⟨.asn, "AS7", by decide +kernel⟩
    obtain ⟨hcountries, hasns, hservices⟩ : (s.baseline.get .country).members = ["DE", "US"] ∧
        (s.baseline.get .asn).members = [] ∧ (s.baseline.get .service).members = [] := by
      simpa [Category.all, Except.toOption] using hfirst
    refine ⟨s, v, r, rfl, hv, hr, hyes, ?_⟩
    simp only [((hthere hyes).2 _ _).1, hcountries, hasns, hservices]
    decide +kernel

end Visit

end FacetFilter
