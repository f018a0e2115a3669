import FacetFilter.Proofs.Url.Authority
import FacetFilter.Proofs.Url.Path
import FacetFilter.Url.Reader

/-! Authority and path of a URL read back from their text. Which of the two slashes, the dot
before a path and the host stand in it depends on the kind of the URL; in no kind does reading
refuse what reading has left there. -/

namespace FacetFilter.Url

variable {toAscii : List Char → Option (List Char)}

/-- Authority and path as they stand after the colon of the scheme. -/
def bodyText : Option Authority → Path → List Char
  | some a, path => '/' :: '/' :: a.text ++ path.text
  | none, path => (if ['/', '/'].isPrefixOf path.text then ['/', '.'] else []) ++ path.text

/-- Authority and path as reading leaves them. -/
inductive Body (toAscii : List Char → Option (List Char)) :
    Kind → Option Authority → Path → Prop where
  | web {n : Nat} {a : Authority} {segments : List (List Char)} :
      a.Written toAscii (.web n) → Path.Escaped segments →
      Body toAscii (.web n) (some a) (.rooted segments)
  | file {h : Host} {segments : List (List Char)} :
      h = .empty ∨ h.ReadBack (Authority.readHost toAscii .file) → Path.Escaped segments →
      Body toAscii .file (some (.ofHost h)) (.rooted segments)
  | general {a : Authority} {segments : List (List Char)} :
      a.Written toAscii .general → Path.Escaped segments →
      Body toAscii .general (some a) (.rooted segments)
  | noAuthority {segments : List (List Char)} :
      Path.Escaped segments → Body toAscii .general none (.rooted segments)
  | rootless {cs : List Char} :
      (∀ c ∈ cs, beforeQuery c = true) → cs.head? ≠ some '/' →
      Body toAscii .general none (.rootless cs)

/-- A rootless path stands in a general URL without authority. -/
theorem Body.of_rootless {kind : Kind} {authority : Option Authority} {cs : List Char}
    (h : Body toAscii kind authority (.rootless cs)) :
    kind = .general ∧ authority = none ∧ (∀ c ∈ cs, beforeQuery c = true) ∧
      cs.head? ≠ some '/' := by
  cases h with
  | rootless hplain hslash => exact ⟨rfl, rfl, hplain, hslash⟩

theorem body_of_readWeb (hmap : Host.MapsToAscii toAscii) {n : Nat} {isLast : Bool}
    {cs : List Char} {authority : Option Authority} {path : Path}
    (h : readWeb toAscii (.web n) isLast cs = .ok (authority, path)) :
    Body toAscii (.web n) authority path := by
  unfold readWeb at h
  obtain ⟨⟨a, rest⟩, ha, h⟩ := Text.bind_eq_ok_iff.mp h
  cases h
  exact .web (Authority.written_of_read hmap ha) (Path.escaped_trail _ _)

theorem body_of_readGeneral (hmap : Host.MapsToAscii toAscii) {isLast : Bool} {cs : List Char}
    {authority : Option Authority} {path : Path} (hquestion : '?' ∉ cs) (hhash : '#' ∉ cs)
    (h : readGeneral toAscii isLast cs = .ok (authority, path)) :
    Body toAscii .general authority path := by
  unfold readGeneral at h
  split at h
  · next cs =>
    obtain ⟨⟨a, afterPort⟩, ha, h⟩ := Text.bind_eq_ok_iff.mp h
    cases h
    refine .general (Authority.written_of_read hmap ha) ?_
    split
    · exact Path.escaped_trail _ _
    · split
      · exact Path.escaped_nil
      · exact Path.escaped_trail _ _
  · cases h
    exact .noAuthority (Path.escaped_trail _ _)
  · next hslash =>
    cases h
    refine .rootless (fun c hc => ?_) ?_
    · rcases Text.Percent.mem_escape hc with ⟨hc, hkeeps⟩ | rfl | hc
      · exact beforeQuery_iff.mpr ⟨hkeeps, fun e => hquestion (e ▸ hc), fun e => hhash (e ▸ hc)⟩
      · decide
      · exact beforeQuery_of_inPath (inPath_of_inUserinfo (inUserinfo_of_isAlphanum hc))
    · intro hhead
      rcases Text.Percent.head?_escape hhead with hhead | hhead | hhead
      · exact hslash cs.tail (List.eq_cons_of_mem_head? hhead)
      · cases hhead
      · exact absurd hhead (by decide)

theorem readBack_of_readFileHost (hmap : Host.MapsToAscii toAscii) {cs rest : List Char} {h : Host}
    (hr : readFileHost toAscii cs = .ok (h, rest)) :
    h = .empty ∨ h.ReadBack (Authority.readHost toAscii .file) := by
  unfold readFileHost at hr
  dsimp only at hr
  split at hr
  · cases hr
    exact Or.inl rfl
  · split at hr
    · cases hr
      exact Or.inl rfl
    · next hne =>
      obtain ⟨host, hhost, hr⟩ := Text.bind_eq_ok_iff.mp hr
      split at hr
      · cases hr
        exact Or.inl rfl
      · cases hr
        exact Or.inr (Authority.readBack_of_readHost hmap ((if_neg hne).trans hhost))

theorem body_fileUrl {h : Host}
    (hh : h = .empty ∨ h.ReadBack (Authority.readHost toAscii .file)) (cs : List Char) :
    Body toAscii .file (fileUrl h (Path.trail .file cs)).1 (fileUrl h (Path.trail .file cs)).2 := by
  refine .file ?_ (Path.escaped_trail .file cs).withoutLeadingEmpty
  split
  · exact Or.inl rfl
  · exact hh

theorem body_of_readFile (hmap : Host.MapsToAscii toAscii) {cs : List Char}
    {authority : Option Authority} {path : Path}
    (h : readFile toAscii cs = .ok (authority, path)) : Body toAscii .file authority path := by
  unfold readFile at h
  split at h
  · cases h
    exact body_fileUrl (Or.inl rfl) _
  · split at h
    · cases h
      exact body_fileUrl (Or.inl rfl) _
    · obtain ⟨⟨host, pathText⟩, hhost, h⟩ := Text.bind_eq_ok_iff.mp h
      cases h
      exact body_fileUrl (readBack_of_readFileHost hmap hhost) _

theorem notMem_withoutBreaks {c : Char} {cs : List Char} (h : c ∉ cs) : c ∉ withoutBreaks cs :=
  fun hm => h (List.mem_filter.mp hm).1

/-- Authority and path are read into a form in which nothing has to be escaped. -/
theorem body_of_readBody (hmap : Host.MapsToAscii toAscii) {kind : Kind} {isLast : Bool}
    {cs : List Char} {authority : Option Authority} {path : Path} (hquestion : '?' ∉ cs)
    (hhash : '#' ∉ cs) (h : readBody toAscii kind isLast cs = .ok (authority, path)) :
    Body toAscii kind authority path := by
  cases kind with
  | web n => exact body_of_readWeb hmap h
  | file => exact body_of_readFile hmap h
  | general =>
    exact body_of_readGeneral hmap (notMem_withoutBreaks hquestion) (notMem_withoutBreaks hhash) h

/-! ## Reading authority and path from their text -/

theorem separates_of_inAuthority {kind : Kind} {c : Char} (h : inAuthority c = true) :
    kind.separates c = false := by
  have hslash : c ≠ '/' := by rintro rfl; exact absurd h (by decide)
  have hback : c ≠ '\\' := by rintro rfl; exact absurd h (by decide)
  simp [Kind.separates, hslash, hback]

/-- An authority, or a host, ends where the path begins. -/
theorem span_separates {kind : Kind} {cs : List Char} (h : ∀ c ∈ cs, inAuthority c = true)
    (segments : List (List Char)) :
    (cs ++ (Path.rooted segments).text).span (!kind.separates ·) =
      (cs, (Path.rooted segments).text) := by
  refine Text.span_append (fun c hc => by simp [separates_of_inAuthority (h c hc)]) fun c hc => ?_
  rw [Path.eq_slash_of_head?_text_rooted hc]
  rfl

theorem readWeb_text {n : Nat} {a : Authority} (ha : a.Written toAscii (.web n)) (isLast : Bool)
    (segments : List (List Char)) :
    ∃ found,
      readWeb toAscii (.web n) isLast (bodyText (some a) (.rooted segments)) = .ok found := by
  have hslashes : (bodyText (some a) (.rooted segments)).dropWhile (Kind.web n).separates =
      a.text ++ (Path.rooted segments).text := by
    obtain ⟨c, more, htext⟩ := List.exists_cons_of_ne_nil (ha.text_ne_nil rfl)
    have hc : (Kind.web n).separates c = false :=
      separates_of_inAuthority (ha.inAuthority_text (by simp [htext]))
    have hslash : (Kind.web n).separates '/' = true := rfl
    simp [bodyText, htext, hslash, hc]
  rw [readWeb, hslashes, span_separates fun c => ha.inAuthority_text]
  dsimp only
  rw [ha.read_text]
  exact ⟨_, rfl⟩

theorem readGeneral_text {a : Authority} (ha : a.Written toAscii .general) (isLast : Bool)
    (segments : List (List Char)) :
    ∃ found, readGeneral toAscii isLast (bodyText (some a) (.rooted segments)) = .ok found := by
  have hspan : (a.text ++ (Path.rooted segments).text).span (· != '/') =
      (a.text, (Path.rooted segments).text) := by
    refine Text.span_append (fun c hc => ?_) fun c hc => ?_
    · have hslash : c ≠ '/' := by
        rintro rfl
        exact absurd (ha.inAuthority_text hc) (by decide)
      simpa using hslash
    · rw [Path.eq_slash_of_head?_text_rooted hc]
      rfl
  rw [bodyText, List.cons_append, List.cons_append, readGeneral, hspan]
  dsimp only
  rw [ha.read_text]
  exact ⟨_, rfl⟩

/-- Without two slashes at its front a general URL has no authority that could be wrong. -/
theorem readGeneral_of_not_isPrefixOf {cs : List Char} (h : ¬['/', '/'].isPrefixOf cs = true)
    (isLast : Bool) : ∃ found, readGeneral toAscii isLast cs = .ok found := by
  unfold readGeneral
  split
  · simp at h
  · exact ⟨_, rfl⟩
  · exact ⟨_, rfl⟩

theorem readGeneral_noAuthority (path : Path) (isLast : Bool) :
    ∃ found, readGeneral toAscii isLast (bodyText none path) = .ok found := by
  refine readGeneral_of_not_isPrefixOf ?_ isLast
  by_cases hslashes : ['/', '/'].isPrefixOf path.text = true
  · simp [bodyText, hslashes, List.isPrefixOf]
  · rwa [bodyText, if_neg hslashes, List.nil_append]

theorem inAuthority_of_mem_host {h : Host}
    (hh : h = .empty ∨ h.ReadBack (Authority.readHost toAscii .file)) {c : Char} (hc : c ∈ h.text) :
    inAuthority c = true := by
  rcases hh with rfl | hback
  · cases hc
  · exact inAuthority_of_inHost (hback.inHost_text c hc)

theorem readFileHost_text {h : Host}
    (hh : h = .empty ∨ h.ReadBack (Authority.readHost toAscii .file))
    (segments : List (List Char)) :
    ∃ found, readFileHost toAscii (h.text ++ (Path.rooted segments).text) = .ok found := by
  have hplain : ∀ c ∈ h.text, inAuthority c = true := fun c => inAuthority_of_mem_host hh
  rw [readFileHost, span_separates hplain]
  dsimp only
  rw [withoutBreaks_of_inRootless fun c hc => inRootless_of_inAuthority (hplain c hc)]
  split
  · exact ⟨_, rfl⟩
  · split
    · exact ⟨_, rfl⟩
    · next hne =>
      rcases hh with rfl | hback
      · exact absurd rfl hne
      · have hread : Host.ofSpecial toAscii h.text = .ok h :=
          (if_neg hne).symm.trans hback.read_text
        rw [hread]
        dsimp only [bind, Except.bind]
        split
        · exact ⟨_, rfl⟩
        · exact ⟨_, rfl⟩

theorem readFile_text {h : Host} (hh : h = .empty ∨ h.ReadBack (Authority.readHost toAscii .file))
    (segments : List (List Char)) :
    ∃ found, readFile toAscii (bodyText (some (.ofHost h)) (.rooted segments)) = .ok found := by
  obtain ⟨⟨host, rest⟩, hfound⟩ := readFileHost_text hh segments
  have hslash : ∀ cs, afterSlash? ('/' :: cs) = some cs := fun cs => by
    simp [afterSlash?, isBreak, Kind.separates]
  rw [readFile, bodyText, Authority.text_ofHost, List.cons_append, List.cons_append, hslash]
  dsimp only
  rw [hslash]
  dsimp only
  rw [hfound]
  exact ⟨_, rfl⟩

section
variable {kind : Kind} {authority : Option Authority} {path : Path}

theorem beforeQuery_text_rooted {segments : List (List Char)} (h : Path.Escaped segments) {c : Char}
    (hc : c ∈ (Path.rooted segments).text) : beforeQuery c = true := by
  rcases Path.mem_text_rooted h hc with rfl | hc
  · decide
  · exact beforeQuery_of_inPath hc

theorem beforeQuery_bodyText {a : Authority} (ha : ∀ c ∈ a.text, inAuthority c = true)
    {segments : List (List Char)} (h : Path.Escaped segments) :
    ∀ c ∈ bodyText (some a) (.rooted segments), beforeQuery c = true := by
  intro c hc
  rcases List.mem_append.mp hc with hc | hc
  · rcases List.mem_cons.mp hc with rfl | hc
    · decide
    · rcases List.mem_cons.mp hc with rfl | hc
      · decide
      · exact beforeQuery_of_inAuthority (ha c hc)
  · exact beforeQuery_text_rooted h hc

theorem beforeQuery_withDot (h : ∀ c ∈ path.text, beforeQuery c = true) :
    ∀ c ∈ bodyText none path, beforeQuery c = true := by
  intro c hc
  rcases List.mem_append.mp hc with hc | hc
  · split at hc
    · rw [List.mem_cons, List.mem_singleton] at hc
      rcases hc with rfl | rfl <;> decide
    · cases hc
  · exact h c hc

/-- Spaces stand nowhere but in a rootless path. -/
theorem Body.exists_bodyText_eq (h : Body toAscii kind authority path) :
    ∃ before, bodyText authority path = before ++ path.text ∧ ' ' ∉ before := by
  have hslashes : ∀ {a : Authority}, (∀ c ∈ a.text, inAuthority c = true) →
      ' ' ∉ '/' :: '/' :: a.text := by
    intro a ha hm
    have hm : ' ' ∈ a.text := by simpa using hm
    exact absurd (ha _ hm) (by decide)
  cases h with
  | web ha _ => exact ⟨_, rfl, hslashes fun c => ha.inAuthority_text⟩
  | file hh _ =>
    refine ⟨_, rfl, hslashes fun c hc => ?_⟩
    rw [Authority.text_ofHost] at hc
    exact inAuthority_of_mem_host hh hc
  | general ha _ => exact ⟨_, rfl, hslashes fun c => ha.inAuthority_text⟩
  | noAuthority _ | rootless _ _ =>
    refine ⟨_, rfl, ?_⟩
    split <;> decide

theorem Body.space_notMem_rooted {segments : List (List Char)}
    (h : Body toAscii kind authority (.rooted segments)) : ' ' ∉ (Path.rooted segments).text := by
  have hpath : Path.Escaped segments := by cases h <;> assumption
  intro hm
  rcases Path.mem_text_rooted hpath hm with hm | hm <;> exact absurd hm (by decide)

/-- Nothing in the text of authority and path begins a query or a fragment. -/
theorem Body.beforeQuery_text (h : Body toAscii kind authority path) :
    ∀ c ∈ bodyText authority path, beforeQuery c = true := by
  cases h with
  | web ha hpath => exact beforeQuery_bodyText (fun c => ha.inAuthority_text) hpath
  | file hh hpath =>
    refine beforeQuery_bodyText (fun c hc => ?_) hpath
    rw [Authority.text_ofHost] at hc
    exact inAuthority_of_mem_host hh hc
  | general ha hpath => exact beforeQuery_bodyText (fun c => ha.inAuthority_text) hpath
  | noAuthority hpath => exact beforeQuery_withDot fun c => beforeQuery_text_rooted hpath
  | rootless hplain _ => exact beforeQuery_withDot hplain

/-- What reading leaves of authority and path is accepted again as it is written. -/
theorem Body.readBody_text (h : Body toAscii kind authority path) (isLast : Bool) :
    ∃ found, readBody toAscii kind isLast (bodyText authority path) = .ok found := by
  have hbreaks : withoutBreaks (bodyText authority path) = bodyText authority path :=
    withoutBreaks_of_inRootless fun c hc => (beforeQuery_iff.mp (h.beforeQuery_text c hc)).1
  cases h with
  | web ha _ =>
    rw [readBody, hbreaks]
    exact readWeb_text ha isLast _
  | file hh _ => exact readFile_text hh _
  | general ha _ =>
    rw [readBody, hbreaks]
    exact readGeneral_text ha isLast _
  | noAuthority _ | rootless _ _ =>
    rw [readBody, hbreaks]
    exact readGeneral_noAuthority _ isLast

end

end FacetFilter.Url
