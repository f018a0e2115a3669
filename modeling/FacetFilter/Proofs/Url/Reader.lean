import FacetFilter.Proofs.Url.Body
import FacetFilter.Proofs.Url.Library

/-! URLs read back from their text. A scheme ends at the first colon, and nothing before the query
begins one. So a URL that was read once is accepted again as it is written, with whatever query
it is asked, and the reader is a library as the program needs it, as long as the mapping of host
names keeps to what hosts are made of. -/

namespace FacetFilter.Url

variable {toAscii : List Char → Option (List Char)}

/-! ## Schemes -/

theorem isAlpha_toLower {c : Char} (h : c.isAlpha = true) : c.toLower.isAlpha = true :=
  of_ascii (q := fun c => c.toLower.isAlpha)
    (fun c hc => toNat_lt_of_isAlphanum (by rw [Char.isAlphanum, hc, Bool.true_or]))
    (by decide +kernel) h

theorem toNat_lt_of_inScheme {c : Char} (h : inScheme c = true) : c.toNat < 0x80 := by
  simp only [inScheme, Bool.or_eq_true, beq_iff_eq] at h
  rcases h with ((h | rfl) | rfl) | rfl
  · exact toNat_lt_of_isAlphanum h
  all_goals decide

theorem inScheme_toLower {c : Char} (h : inScheme c = true) : inScheme c.toLower = true :=
  of_ascii (q := fun c => inScheme c.toLower) (fun _ => toNat_lt_of_inScheme) (by decide +kernel) h

theorem inHost_of_inScheme {c : Char} (h : inScheme c = true) : inHost c = true :=
  of_ascii (fun _ => toNat_lt_of_inScheme) (by decide +kernel) h

/-- A scheme is a scheme as it is written. -/
theorem scheme?_scheme {cs s : List Char} (h : scheme? cs = some s) : scheme? s = some s := by
  unfold scheme? at h
  split at h
  · next first more =>
    split at h
    · next hplain =>
      cases h
      rw [Bool.and_eq_true, List.all_eq_true] at hplain
      have hmore : ((more.map Char.toLower).all inScheme) = true := by
        simpa using fun c hc => inScheme_toLower (hplain.2 c hc)
      have htwice : ((first :: more).map Char.toLower).map Char.toLower =
          (first :: more).map Char.toLower := by
        rw [List.map_map]
        exact List.map_congr_left fun c _ => toLower_toLower c
      rw [List.map_cons, scheme?, isAlpha_toLower hplain.1, hmore, ← List.map_cons, htwice]
      rfl
    · cases h
  · cases h

theorem inScheme_of_mem_scheme {s : List Char} (h : scheme? s = some s) :
    ∀ c ∈ s, inScheme c = true := by
  unfold scheme? at h
  split at h
  · next first more =>
    split at h
    · next hplain =>
      rw [Bool.and_eq_true, List.all_eq_true] at hplain
      rw [List.forall_mem_cons]
      exact ⟨by simp [inScheme, Char.isAlphanum, hplain.1], hplain.2⟩
    · cases h
  · cases h

theorem notMem_scheme {s : List Char} (h : scheme? s = some s) {c : Char}
    (hc : inScheme c = false) : c ∉ s := fun hm => by
  rw [inScheme_of_mem_scheme h c hm] at hc
  exact absurd hc (by decide)

theorem scheme_ne_nil {s : List Char} (h : scheme? s = some s) : s ≠ [] := by
  rintro rfl
  cases h

/-! ## The ends of a text -/

theorem trimmed_eq_self {cs : List Char} (hfirst : ∀ c, cs.head? = some c → 0x20 < c.toNat)
    (hlast : ∀ c, cs.getLast? = some c → 0x20 < c.toNat) : trimmed cs = cs := by
  have hfront : cs.dropWhile (fun c => decide (c.toNat ≤ 0x20)) = cs :=
    Text.dropWhile_eq_self fun c hc => by simpa using hfirst c hc
  have hback : cs.reverse.dropWhile (fun c => decide (c.toNat ≤ 0x20)) = cs.reverse :=
    Text.dropWhile_eq_self fun c hc => by simpa using hlast c (by rwa [← List.head?_reverse])
  unfold trimmed
  dsimp only
  rw [hfront, hback, List.reverse_reverse]

theorem of_getLast?_rdropWhile {p : Char → Bool} {cs : List Char} {c : Char}
    (h : (cs.rdropWhile p).getLast? = some c) : p c = false := by
  have hnot := List.head?_dropWhile_not p cs.reverse
  rw [List.rdropWhile, List.getLast?_reverse] at h
  rwa [h] at hnot

theorem lt_of_getLast?_trimmed {cs : List Char} {c : Char}
    (h : (trimmed cs).getLast? = some c) : 0x20 < c.toNat := by
  have hnot : decide (c.toNat ≤ 0x20) = false := of_getLast?_rdropWhile h
  simpa using hnot

theorem rdropWhile_append_cons {p : Char → Bool} {c : Char} (hc : p c = false)
    (before cs : List Char) :
    (before ++ c :: cs).rdropWhile p = before ++ c :: cs.rdropWhile p := by
  induction cs using List.reverseRecOn with
  | nil => rw [List.rdropWhile_concat_neg p before c (by simp [hc])]; rfl
  | append_singleton cs d ih =>
    rw [← List.cons_append, ← List.append_assoc, List.rdropWhile_concat, List.rdropWhile_concat, ih]
    split <;> simp

/-! ## URLs as reading leaves them -/

/-- A URL of which every part is escaped. -/
structure Escaped (toAscii : List Char → Option (List Char)) (u : Url) : Prop where
  scheme_eq : scheme? u.scheme = some u.scheme
  body : Body toAscii u.kind u.authority u.path
  query : ∀ q, u.query = some q → ∀ c ∈ q, inQuery u.kind.isSpecial c = true
  fragment : ∀ f, u.fragment = some f → ∀ c ∈ f, inFragment c = true

/-- A URL as reading leaves it, and as the changes to it do: its text does not end in a space. -/
structure Written (toAscii : List Char → Option (List Char)) (u : Url) : Prop
    extends Escaped toAscii u where
  ends : u.query = none → u.fragment = none → u.path.text.getLast? ≠ some ' '

/-- A rootless path is all that follows the scheme. -/
theorem eq_escape_of_readGeneral {isLast : Bool} {cs ds : List Char}
    (h : readGeneral toAscii isLast cs = .ok (none, .rootless ds)) :
    ds = Text.Percent.escape inRootless cs := by
  unfold readGeneral at h
  split at h
  · obtain ⟨_, -, h⟩ := Text.bind_eq_ok_iff.mp h
    cases h
  · cases h
  · cases h
    rfl

theorem getLast?_withoutBreaks {cs : List Char} (h : ∀ c, cs.getLast? = some c → 0x20 < c.toNat) :
    (withoutBreaks cs).getLast? = cs.getLast? := by
  rcases List.eq_nil_or_concat cs with rfl | ⟨init, last, rfl⟩
  · rfl
  · have hlast : 0x20 < last.toNat := h last (by simp)
    have hkept : isBreak last = false := by
      simp only [isBreak, Bool.or_eq_false_iff, beq_eq_false_iff_ne]
      refine ⟨⟨?_, ?_⟩, ?_⟩ <;> rintro rfl <;> exact absurd hlast (by decide)
    simp [withoutBreaks, hkept]

theorem getLast?_append_cons_ne {before cs : List Char} {mark c : Char} (hmark : mark ≠ c)
    (hcs : c ∉ cs) : (before ++ mark :: cs).getLast? ≠ some c := by
  intro hlast
  rw [List.getLast?_append_cons] at hlast
  rcases List.mem_cons.mp (List.mem_of_getLast? hlast) with he | hm
  · exact hmark he.symm
  · exact hcs hm

/-- A path at the end of a text does not end in a space, as the text does not. -/
theorem getLast?_path_of_readBody {kind : Kind} {isLast : Bool} {cs : List Char}
    {authority : Option Authority} {path : Path} (hbody : Body toAscii kind authority path)
    (h : readBody toAscii kind isLast cs = .ok (authority, path))
    (hlast : ∀ c, cs.getLast? = some c → 0x20 < c.toNat) : path.text.getLast? ≠ some ' ' := by
  cases path with
  | rooted segments => exact fun hspace => hbody.space_notMem_rooted (List.mem_of_getLast? hspace)
  | rootless ds =>
    cases hbody
    rw [Path.text, eq_escape_of_readGeneral h]
    intro hspace
    rcases Text.Percent.getLast?_escape hspace with hspace | hspace | hspace
    · rw [getLast?_withoutBreaks hlast] at hspace
      exact absurd (hlast _ hspace) (by decide)
    · cases hspace
    · exact absurd hspace (by decide)

theorem eq_fst_cut {sep : Char} {cs : List Char} (h : (Text.cut sep cs).2 = none) :
    (Text.cut sep cs).1 = cs := by
  have hcut := Text.cut_append sep cs
  rwa [h, Option.elim_none, List.append_nil] at hcut

/-- What is read as a URL is written without anything that reading refuses. -/
theorem written_of_ofChars (hmap : Host.MapsToAscii toAscii) {cs : List Char} {u : Url}
    (h : ofChars toAscii cs = .ok u) : u.Written toAscii := by
  unfold ofChars at h
  dsimp only at h
  split at h
  · next scheme rest hscheme hrest =>
    obtain ⟨⟨authority, path⟩, hbody, h⟩ := Text.bind_eq_ok_iff.mp h
    cases h
    have hread : Body toAscii (.ofScheme scheme) authority path := by
      refine body_of_readBody hmap (fun hm => ?_) (fun hm => ?_) hbody
      · exact Text.sep_notMem_cut '?' _ (Text.mem_of_mem_snd_cut hrest hm)
      · exact Text.sep_notMem_cut '#' _
          (Text.mem_of_mem_fst_cut (Text.mem_of_mem_snd_cut hrest hm))
    refine ⟨⟨scheme?_scheme hscheme, hread, fun q hq => ?_, fun f hf => ?_⟩, fun hq hf => ?_⟩
    · obtain ⟨asked, -, rfl⟩ := Option.map_eq_some_iff.mp hq
      exact fun c => inQuery_of_mem_escape
    · obtain ⟨asked, -, rfl⟩ := Option.map_eq_some_iff.mp hf
      exact fun c => inFragment_of_mem_escape
    · -- Without query and fragment the path is read from the end of the text.
      refine getLast?_path_of_readBody hread hbody fun c hc => ?_
      have hbefore := eq_fst_cut (Option.map_eq_none_iff.mp hf)
      have hcut := Text.cut_append ':' (Text.cut '?' (Text.cut '#' (trimmed cs)).1).1
      rw [hrest, eq_fst_cut (Option.map_eq_none_iff.mp hq), hbefore] at hcut
      have hlast : (trimmed cs).getLast? = some c := by
        rw [← hcut, Option.elim_some, List.getLast?_append, List.getLast?_cons, hc]
        rfl
      exact lt_of_getLast?_trimmed hlast
  · cases h

/-! ## The parts of the text -/

theorem front_eq (u : Url) : u.front = u.scheme ++ ':' :: bodyText u.authority u.path := by
  unfold front beforePath bodyText
  cases u.authority <;> simp

namespace Written

variable {u : Url} {c : Char}

theorem wellFormed_parts (h : u.Written toAscii) : u.parts.WellFormed where
  front c hc := by
    rw [parts, front_eq] at hc
    rcases List.mem_append.mp hc with hc | hc
    · exact beforeQuery_of_inAuthority
        (inAuthority_of_inHost (inHost_of_inScheme (inScheme_of_mem_scheme h.scheme_eq c hc)))
    · rcases List.mem_cons.mp hc with rfl | hc
      · decide
      · exact h.body.beforeQuery_text c hc
  colon := by simp [parts, front_eq]
  query q hq c hc := inQuery_false (h.query q hq c hc)

theorem inRootless_chars (h : u.Written toAscii) (hc : c ∈ u.parts.chars) :
    inRootless c = true := by
  rcases List.mem_append.mp hc with hc | hc
  · exact (h.wellFormed_parts.inRootless_beforeFragment hc).1
  · cases hf : u.fragment with
    | none => simp [parts, hf, UrlParts.introduced] at hc
    | some f =>
      rw [parts, hf, UrlParts.introduced] at hc
      rcases List.mem_cons.mp hc with rfl | hc
      · decide
      · exact inRootless_of_inFragment (h.fragment f hf c hc)

theorem head?_chars_ne (h : u.Written toAscii) : u.parts.chars.head? ≠ some ' ' := by
  obtain ⟨first, more, hs⟩ := List.exists_cons_of_ne_nil (scheme_ne_nil h.scheme_eq)
  have hspace : ' ' ∉ u.scheme := notMem_scheme h.scheme_eq (by decide)
  intro hfirst
  have hfirst : first = ' ' := by simpa [UrlParts.chars, parts, front_eq, hs] using hfirst
  exact hspace (by simp [hs, hfirst])

/-- Only the path could have a space at the end of the front. -/
theorem getLast?_front_ne (h : u.Written toAscii) (hpath : u.path.text.getLast? ≠ some ' ') :
    u.front.getLast? ≠ some ' ' := by
  obtain ⟨before, hbody, hbefore⟩ := h.body.exists_bodyText_eq
  have hscheme : ' ' ∉ u.scheme := notMem_scheme h.scheme_eq (by decide)
  have hfront : u.front = (u.scheme ++ ':' :: before) ++ u.path.text := by simp [front_eq, hbody]
  intro hlast
  rw [hfront, List.getLast?_append, Option.or_eq_some_iff] at hlast
  rcases hlast with hlast | ⟨-, hlast⟩
  · exact hpath hlast
  · have hm := List.mem_of_getLast? hlast
    simp [hscheme, hbefore] at hm

/-- The end of the text belongs to its last part. -/
theorem getLast?_chars_ne (h : u.Written toAscii) : u.parts.chars.getLast? ≠ some ' ' := by
  rw [UrlParts.chars, parts]
  dsimp only
  cases hf : u.fragment with
  | some f =>
    exact getLast?_append_cons_ne (by decide) fun hm => absurd (h.fragment f hf _ hm) (by decide)
  | none =>
    rw [UrlParts.introduced, List.append_nil]
    cases hq : u.query with
    | some q =>
      refine getLast?_append_cons_ne (by decide) fun hm => ?_
      exact absurd (inQuery_false (h.query q hq _ hm)) (by decide)
    | none =>
      rw [UrlParts.introduced, List.append_nil]
      exact h.getLast?_front_ne (h.ends hq hf)

theorem trimmed_chars (h : u.Written toAscii) : trimmed u.parts.chars = u.parts.chars := by
  have hvisible : ∀ c ∈ u.parts.chars, c ≠ ' ' → 0x20 < c.toNat := by
    intro c hc hne
    have hin := h.inRootless_chars hc
    simp only [inRootless, Bool.and_eq_true, decide_eq_true_eq] at hin
    have : c.toNat ≠ 0x20 := fun he => hne (Char.toNat_inj.mp he)
    omega
  refine trimmed_eq_self (fun c hc => ?_) fun c hc => ?_
  · refine hvisible c (List.mem_of_mem_head? hc) ?_
    rintro rfl
    exact h.head?_chars_ne hc
  · refine hvisible c (List.mem_of_getLast? hc) ?_
    rintro rfl
    exact h.getLast?_chars_ne hc

/-- The query is escaped already. -/
theorem map_escape_query (h : u.Written toAscii) :
    u.query.map (Text.Percent.escape (inQuery u.kind.isSpecial) ∘ withoutBreaks) = u.query := by
  cases hq : u.query with
  | none => rfl
  | some q =>
    have hbreaks : withoutBreaks q = q :=
      withoutBreaks_of_inRootless fun c hc => inRootless_of_inQuery (h.query q hq c hc)
    rw [Option.map_some, Function.comp_apply, hbreaks, Text.Percent.escape_eq_self (h.query q hq)]

/-- A URL is accepted as it is written, with the query it has. -/
theorem ofChars_chars (h : u.Written toAscii) :
    ∃ v, ofChars toAscii u.parts.chars = .ok v ∧ v.query = u.query := by
  have hcolon : ':' ∉ u.scheme := notMem_scheme h.scheme_eq (by decide)
  have hscheme : scheme? (withoutBreaks u.scheme) = some u.scheme := by
    rw [withoutBreaks_of_inRootless fun c hc => inRootless_of_inHost
      (inHost_of_inScheme (inScheme_of_mem_scheme h.scheme_eq c hc))]
    exact h.scheme_eq
  obtain ⟨⟨authority, path⟩, hbody⟩ := h.body.readBody_text
    (u.query.isNone && u.fragment.isNone)
  refine ⟨⟨u.scheme, authority, path, u.query, u.fragment.map
    (Text.Percent.escape inFragment ∘ withoutBreaks)⟩, ?_, rfl⟩
  unfold ofChars
  rw [h.trimmed_chars, h.wellFormed_parts.cut_chars]
  dsimp only
  rw [h.wellFormed_parts.cut_front, parts]
  dsimp only
  rw [front_eq, Text.cut_append_cons hcolon, hscheme]
  dsimp only
  rw [← kind, hbody]
  dsimp only [bind, Except.bind]
  rw [h.map_escape_query]
  rfl

end Written

/-! ## Changes -/

variable {u : Url}

/-- Without the spaces at its end a rootless path is still one. -/
theorem Body.rdropWhile {kind : Kind} {authority : Option Authority} {cs : List Char}
    (h : Body toAscii kind authority (.rootless cs)) :
    Body toAscii kind authority (.rootless (cs.rdropWhile (· == ' '))) := by
  obtain ⟨rfl, rfl, hplain, hslash⟩ := h.of_rootless
  obtain ⟨spaces, hspaces⟩ := List.rdropWhile_prefix (· == ' ') cs
  refine .rootless (fun c hc => hplain c ?_) fun hhead => hslash ?_
  · rw [← hspaces]
    exact List.mem_append_left _ hc
  · rw [← hspaces, List.head?_append, hhead]
    rfl

/-- What stands before a rootless path is the scheme. -/
theorem front_of_rootless {cs : List Char} (h : Body toAscii u.kind u.authority u.path)
    (hpath : u.path = .rootless cs) : u.front = u.scheme ++ ':' :: cs := by
  rw [hpath] at h
  obtain ⟨-, hauthority, -, hslash⟩ := h.of_rootless
  have hslashes : ['/', '/'].isPrefixOf cs = false := by
    cases cs with
    | nil => rfl
    | cons c rest =>
      have hc : c ≠ '/' := fun he => hslash (by rw [he, List.head?_cons])
      simp [List.isPrefixOf, Ne.symm hc]
  rw [front_eq, hauthority, hpath, bodyText, Path.text, hslashes]
  rfl

theorem withoutTrailingSpaces_of_rootless {cs : List Char} (hpath : u.path = .rootless cs)
    (hquery : u.query = none) (hfragment : u.fragment = none) :
    u.withoutTrailingSpaces = { u with path := .rootless (cs.rdropWhile (· == ' ')) } := by
  rw [withoutTrailingSpaces, hpath, hquery, hfragment]
  rfl

theorem withoutTrailingSpaces_of_not (h : ¬(u.parts.isOpaque = true ∧ u.parts.query = none ∧
    u.parts.fragment = none)) : u.withoutTrailingSpaces = u := by
  unfold withoutTrailingSpaces
  split
  · next cs hpath hquery hfragment =>
    have hrootless : u.parts.isOpaque = true := by rw [parts, hpath]; rfl
    exact absurd ⟨hrootless, hquery, hfragment⟩ h
  · rfl

theorem exists_of_isRootless {path : Path} (h : path.isRootless = true) :
    ∃ cs, path = .rootless cs := by
  cases path with
  | rooted segments => cases h
  | rootless cs => exact ⟨cs, rfl⟩

namespace Escaped

/-- The parts lose their spaces as the URL does. -/
theorem parts_withoutTrailingSpaces (h : u.Escaped toAscii) :
    u.withoutTrailingSpaces.parts = u.parts.withoutTrailingSpaces := by
  rw [UrlParts.withoutTrailingSpaces]
  split
  · next hends =>
    obtain ⟨cs, hpath⟩ := exists_of_isRootless hends.1
    have hbody := h.body
    rw [hpath] at hbody
    have hfront : ({ u with path := .rootless (cs.rdropWhile (· == ' ')) } : Url).front =
        u.front.rdropWhile (· == ' ') := by
      rw [front_of_rootless h.body hpath, rdropWhile_append_cons (by decide)]
      exact front_of_rootless hbody.rdropWhile rfl
    rw [withoutTrailingSpaces_of_rootless hpath hends.2.1 hends.2.2, parts, hfront]
    simp only [parts, hpath]
    rfl
  · next hends => rw [withoutTrailingSpaces_of_not hends]

theorem withoutTrailingSpaces (h : u.Escaped toAscii) :
    u.withoutTrailingSpaces.Written toAscii := by
  by_cases hends : u.parts.isOpaque = true ∧ u.parts.query = none ∧ u.parts.fragment = none
  · obtain ⟨cs, hpath⟩ := exists_of_isRootless hends.1
    have hbody := h.body
    rw [hpath] at hbody
    rw [withoutTrailingSpaces_of_rootless hpath hends.2.1 hends.2.2]
    refine ⟨⟨h.scheme_eq, hbody.rdropWhile, h.query, h.fragment⟩, fun _ _ hlast => ?_⟩
    exact absurd (of_getLast?_rdropWhile hlast) (by decide)
  · rw [withoutTrailingSpaces_of_not hends]
    refine ⟨h, fun hquery hfragment hlast => ?_⟩
    cases hpath : u.path with
    | rooted segments =>
      have hbody := h.body
      rw [hpath] at hbody hlast
      exact hbody.space_notMem_rooted (List.mem_of_getLast? hlast)
    | rootless cs =>
      have hrootless : u.parts.isOpaque = true := by rw [parts, hpath]; rfl
      exact hends ⟨hrootless, hquery, hfragment⟩

theorem withFragment_none (h : u.Escaped toAscii) : Escaped toAscii { u with fragment := none } :=
  ⟨h.scheme_eq, h.body, h.query, nofun⟩

theorem withQuery (h : u.Escaped toAscii) {query? : Option (List Char)}
    (hquery : ∀ q, query? = some q → ∀ c ∈ q, inQuery u.kind.isSpecial c = true) :
    Escaped toAscii { u with query := query? } := ⟨h.scheme_eq, h.body, hquery, h.fragment⟩

end Escaped

theorem toNat_lt_of_isPlain {c : Char} (h : UrlLibrary.isPlain c = true) : c.toNat < 0x80 := by
  rcases Bool.or_eq_true_iff.mp h with h | h
  · exact toNat_lt_of_isAlphanum h
  · have hmarks : "*-._+%,&=".toList.all (fun c => decide (c.toNat < 0x80)) = true := rfl
    exact of_decide_eq_true (List.all_eq_true.mp hmarks c (List.contains_iff_mem.mp h))

theorem inQuery_of_isPlain {special : Bool} {c : Char} (h : UrlLibrary.isPlain c = true) :
    inQuery special c = true :=
  inQuery_of_special (of_ascii (q := inQuery true) (fun _ => toNat_lt_of_isPlain)
    (by decide +kernel) h) special

/-- A plain query is set as it is. -/
theorem withQuery_eq {query? : Option (List Char)}
    (hplain : ∀ q, query? = some q → ∀ c ∈ q, UrlLibrary.isPlain c = true) (u : Url) :
    u.withQuery query? = ({ u with query := query? } : Url).withoutTrailingSpaces := by
  cases query? with
  | none => rfl
  | some q =>
    have hself : Text.Percent.escape (inQuery u.kind.isSpecial) q = q :=
      Text.Percent.escape_eq_self fun c hc => inQuery_of_isPlain (hplain q rfl c hc)
    rw [withQuery, hself, withoutTrailingSpaces_of_not]
    exact fun hends => absurd hends.2.1 (Option.some_ne_none q)

/-! ## The library -/

theorem parse_library (s : String) : (library toAscii).parse s = ofChars toAscii s.toList := by
  dsimp only [library]

theorem toList_text_library (toAscii : List Char → Option (List Char)) (u : Url) :
    ((library toAscii).text u).toList = u.parts.chars := String.toList_ofList

theorem written_of_made (hmap : Host.MapsToAscii toAscii) {u : (library toAscii).Parsed}
    (h : (library toAscii).Made u) : Written toAscii u := by
  induction h with
  | parse hread =>
    rw [parse_library] at hread
    exact written_of_ofChars hmap hread
  | withoutFragment _ ih => exact ih.withFragment_none.withoutTrailingSpaces
  | @withQuery u query? _ hplain ih =>
    have hset : (library toAscii).withQuery u query? = _ := withQuery_eq hplain u
    rw [hset]
    exact (ih.withQuery fun q hq c hc =>
      inQuery_of_isPlain (hplain q hq c hc)).withoutTrailingSpaces

/-- The reader does what the program relies on, for every mapping of names to ASCII. -/
theorem lawful_library (hmap : Host.MapsToAscii toAscii) : (library toAscii).Lawful where
  text_eq u _ := String.toList_ofList
  wellFormed u h := (written_of_made hmap h).wellFormed_parts
  parts_withoutFragment u h :=
    (written_of_made hmap h).withFragment_none.parts_withoutTrailingSpaces
  parts_withQuery u query? h hplain := by
    have hset : (library toAscii).withQuery u query? = _ := withQuery_eq hplain u
    rw [hset]
    exact ((written_of_made hmap h).withQuery fun q hq c hc =>
      inQuery_of_isPlain (hplain q hq c hc)).parts_withoutTrailingSpaces
  parse_text u h := by
    obtain ⟨v, hv, hquery⟩ := (written_of_made hmap h).ofChars_chars
    have htext := congrArg (ofChars toAscii) (toList_text_library toAscii u)
    exact ⟨v, (parse_library _).trans (htext.trans hv), hquery⟩

theorem lawful_asciiLibrary : asciiLibrary.Lawful := lawful_library Host.mapsToAscii_asciiName

end FacetFilter.Url
