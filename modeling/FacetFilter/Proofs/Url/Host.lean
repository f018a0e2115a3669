import FacetFilter.Proofs.Url.Allowed
import FacetFilter.Proofs.Url.Ipv4
import FacetFilter.Proofs.Url.Ipv6
import FacetFilter.Url.Host

/-! Hosts read back from their text. Whatever a host was read from, nothing in its text ends the
authority or has yet to be escaped, and a colon stands only in brackets. So the same host is read
from the text. -/

namespace FacetFilter.Url.Host

/-- A host that `read` finds in its own text, wherever the text stands. -/
structure ReadBack (read : List Char → Except Flaw Host) (h : Host) : Prop where
  read_text : read h.text = .ok h
  inHost_text : ∀ c ∈ h.text, inHost c = true
  colons : (':' ∉ h.text ∧ '[' ∉ h.text) ∨
    ∃ inner, h.text = '[' :: inner ++ [']'] ∧ ']' ∉ inner

/-! ## Addresses in brackets -/

theorem ofBracketed_text {ps : List Nat} (h : Ipv6.Address ps) :
    ofBracketed (Ipv6.text ps ++ [']']) = .ok (.ipv6 ps) := by
  rw [ofBracketed, List.getLast?_append, List.dropLast_concat, Ipv6.pieces?_text h]
  rfl

theorem readBack_ipv6 {read : List Char → Except Flaw Host}
    (hread : ∀ rest, read ('[' :: rest) = ofBracketed rest) {ps : List Nat}
    (h : Ipv6.Address ps) : ReadBack read (.ipv6 ps) where
  read_text := (hread _).trans (ofBracketed_text h)
  inHost_text c hc := by
    simp only [text, List.cons_append, List.mem_cons, List.mem_append, List.not_mem_nil,
      or_false] at hc
    rcases hc with rfl | hc | rfl
    · decide
    · rcases Ipv6.mem_text hc with rfl | hc
      · decide
      · exact inHost_of_inUserinfo (inUserinfo_of_isAlphanum hc)
    · decide
  colons := Or.inr ⟨Ipv6.text ps, rfl, fun h => by
    rcases Ipv6.mem_text h with h | h <;> exact absurd h (by decide)⟩

theorem readBack_of_ofBracketed {read : List Char → Except Flaw Host}
    (hread : ∀ rest, read ('[' :: rest) = ofBracketed rest) {rest : List Char} {h : Host}
    (hb : ofBracketed rest = .ok h) : ReadBack read h := by
  unfold ofBracketed at hb
  split at hb
  · split at hb
    · next hps =>
      cases hb
      exact readBack_ipv6 hread (Ipv6.address_of_pieces? hps)
    · cases hb
  · cases hb

theorem text_ne_nil_of_ofBracketed {rest : List Char} {h : Host} (hb : ofBracketed rest = .ok h) :
    h.text ≠ [] := by
  unfold ofBracketed at hb
  split at hb
  · split at hb
    · cases hb
      exact List.cons_ne_nil _ _
    · cases hb
  · cases hb

/-! ## Names of web and file hosts -/

/-- The characters of a name in lower case. -/
def inName (c : Char) : Bool := !isForbiddenInName c && c.toNat < 0x80 && c.toLower == c

theorem toNat_lt_of_inName {c : Char} (h : inName c = true) : c.toNat < 0x80 := by
  simp only [inName, Bool.and_eq_true, decide_eq_true_eq] at h
  exact h.1.2

theorem inHost_of_inName {c : Char} (h : inName c = true) : inHost c = true :=
  of_ascii (fun _ => toNat_lt_of_inName) (by decide +kernel) h

/-- What reading hosts asks of the mapping of names to ASCII: what it leaves may stand in a name,
and is not mapped any further. An address is left as it is. -/
structure MapsToAscii (toAscii : List Char → Option (List Char)) : Prop where
  inName_of_mem : ∀ cs ds, toAscii cs = some ds → ∀ c ∈ ds, inName c = true
  toAscii_self : ∀ cs ds, toAscii cs = some ds → toAscii ds = some ds
  toAscii_address : ∀ a, toAscii (Ipv4.text a) = some (Ipv4.text a)

section
variable {toAscii : List Char → Option (List Char)}

/-- In a name that is mapped to itself there is nothing to resolve. -/
theorem ofSpecial_of_inName {cs : List Char} (h : ∀ c ∈ cs, inName c = true)
    (hself : toAscii cs = some cs) : ofSpecial toAscii cs = ofName cs := by
  have hbracket : '[' ∉ cs := fun hm => absurd (h _ hm) (by decide)
  have hpercent : '%' ∉ cs := fun hm => absurd (h _ hm) (by decide)
  rw [ofSpecial]
  · rw [Text.Percent.unescape_encode_of_notMem (fun c hc => toNat_lt_of_inName (h c hc)) hpercent,
      Text.Utf8.decode?_encode, Option.bind_some, hself]
  · rintro rest rfl
    exact hbracket List.mem_cons_self

theorem notMem_of_inName {cs : List Char} (h : ∀ c ∈ cs, inName c = true) {c : Char}
    (hc : inName c = false) : c ∉ cs := fun hm => by
  rw [h c hm] at hc
  exact absurd hc (by decide)

theorem readBack_name {cs : List Char} (hne : cs ≠ []) (h : ∀ c ∈ cs, inName c = true)
    (hself : toAscii cs = some cs) (hmeant : Ipv4.isMeant cs = false) :
    ReadBack (ofSpecial toAscii) (.name cs) where
  read_text := by
    rw [text, ofSpecial_of_inName h hself, ofName, if_neg (by simpa using hne), hmeant]
    rfl
  inHost_text c hc := inHost_of_inName (h c hc)
  colons := Or.inl ⟨notMem_of_inName h (by decide), notMem_of_inName h (by decide)⟩

theorem inName_of_mem_text {a : Nat} {c : Char} (h : c ∈ Ipv4.text a) : inName c = true := by
  rcases Ipv4.mem_text h with h | rfl
  · have hlt : ∀ c, Char.isDigit c = true → c.toNat < 0x80 := fun c hc =>
      toNat_lt_of_isAlphanum (by rw [Char.isAlphanum, hc, Bool.or_true])
    exact of_ascii hlt (by decide +kernel) h
  · decide

theorem readBack_ipv4 (hmap : MapsToAscii toAscii) {a : Nat} (h : a < 256 ^ 4) :
    ReadBack (ofSpecial toAscii) (.ipv4 a) where
  read_text := by
    rw [text, ofSpecial_of_inName (fun _ => inName_of_mem_text) (hmap.toAscii_address a), ofName,
      if_neg (by simp [Ipv4.text_ne_nil]), Ipv4.isMeant_text, Ipv4.address?_text h]
    rfl
  inHost_text _ hc := inHost_of_inName (inName_of_mem_text hc)
  colons := Or.inl ⟨notMem_of_inName (fun _ => inName_of_mem_text) (by decide),
    notMem_of_inName (fun _ => inName_of_mem_text) (by decide)⟩

theorem readBack_ofName (hmap : MapsToAscii toAscii) {cs ds : List Char} {h : Host}
    (hds : toAscii cs = some ds) (hr : ofName ds = .ok h) : ReadBack (ofSpecial toAscii) h := by
  unfold ofName at hr
  split at hr
  · cases hr
  · next hempty =>
    split at hr
    · split at hr
      · next ha =>
        cases hr
        exact readBack_ipv4 hmap (Ipv4.address?_lt ha)
      · cases hr
    · next hmeant =>
      cases hr
      exact readBack_name (by simpa using hempty) (hmap.inName_of_mem cs ds hds)
        (hmap.toAscii_self cs ds hds) (Bool.eq_false_iff.mpr hmeant)

theorem text_ne_nil_of_ofName {ds : List Char} {h : Host} (hr : ofName ds = .ok h) :
    h.text ≠ [] := by
  unfold ofName at hr
  split at hr
  · cases hr
  · next hempty =>
    split at hr
    · split at hr
      · cases hr
        exact Ipv4.text_ne_nil _
      · cases hr
    · cases hr
      exact fun hnil => hempty (List.isEmpty_iff.mpr hnil)

/-- A host of a web or file URL is read back from its text, however it was written. -/
theorem readBack_ofSpecial (hmap : MapsToAscii toAscii) {cs : List Char} {h : Host}
    (hr : ofSpecial toAscii cs = .ok h) : ReadBack (ofSpecial toAscii) h := by
  unfold ofSpecial at hr
  split at hr
  · exact readBack_of_ofBracketed (fun _ => rfl) hr
  · split at hr
    · cases hr
    · next hds =>
      obtain ⟨decoded, -, hds⟩ := Option.bind_eq_some_iff.mp hds
      exact readBack_ofName hmap hds hr

/-- No host of a web or file URL is empty. -/
theorem text_ne_nil_of_ofSpecial {cs : List Char} {h : Host} (hr : ofSpecial toAscii cs = .ok h) :
    h.text ≠ [] := by
  unfold ofSpecial at hr
  split at hr
  · exact text_ne_nil_of_ofBracketed hr
  · split at hr
    · cases hr
    · exact text_ne_nil_of_ofName hr

end

/-! ## The mapping of names without Punycode -/

theorem inName_toLower_iff {c : Char} :
    inName c.toLower = true ↔
      (isForbiddenInName c.toLower || decide (0x80 ≤ c.toLower.toNat)) = false := by
  rw [inName, toLower_toLower]
  simp

theorem toLower_of_inName {c : Char} (h : inName c = true) : c.toLower = c := by
  simp only [inName, Bool.and_eq_true, beq_iff_eq] at h
  exact h.2

theorem asciiName_eq_some_iff {cs ds : List Char} :
    asciiName cs = some ds ↔ cs.map Char.toLower = ds ∧ (∀ c ∈ ds, inName c = true) ∧
      ∀ piece ∈ Text.pieces '.' ds, ¬"xn--".toList <+: piece := by
  have hplain : (∀ c ∈ cs.map Char.toLower, inName c = true) ↔
      ((cs.map Char.toLower).any fun c => isForbiddenInName c || 0x80 ≤ c.toNat) = false := by
    simp only [List.any_eq_false, List.forall_mem_map, inName_toLower_iff, Bool.not_eq_true]
  unfold asciiName
  dsimp only
  split
  · next hbad =>
    refine ⟨nofun, ?_⟩
    rintro ⟨rfl, hname, hpieces⟩
    rw [hplain.mp hname, Bool.false_or, List.any_eq_true] at hbad
    obtain ⟨piece, hpiece, hpunycode⟩ := hbad
    exact absurd (List.isPrefixOf_iff_prefix.mp hpunycode) (hpieces piece hpiece)
  · next hgood =>
    rw [Bool.not_eq_true, Bool.or_eq_false_iff] at hgood
    rw [Option.some.injEq]
    refine ⟨?_, And.left⟩
    rintro rfl
    refine ⟨rfl, hplain.mpr hgood.1, fun piece hpiece hpunycode => ?_⟩
    exact List.any_eq_false.mp hgood.2 piece hpiece (List.isPrefixOf_iff_prefix.mpr hpunycode)

/-- Names without Punycode are mapped as reading asks for. -/
theorem mapsToAscii_asciiName : MapsToAscii asciiName where
  inName_of_mem cs ds h := (asciiName_eq_some_iff.mp h).2.1
  toAscii_self cs ds h := by
    obtain ⟨-, hname, hpieces⟩ := asciiName_eq_some_iff.mp h
    refine asciiName_eq_some_iff.mpr ⟨?_, hname, hpieces⟩
    exact (List.map_congr_left fun c hc => toLower_of_inName (hname c hc)).trans (List.map_id ds)
  toAscii_address a := by
    have hname : ∀ c ∈ Ipv4.text a, inName c = true := fun _ => inName_of_mem_text
    refine asciiName_eq_some_iff.mpr ⟨?_, hname, fun piece hpiece hpunycode => ?_⟩
    · exact (List.map_congr_left fun c hc => toLower_of_inName (hname c hc)).trans (List.map_id _)
    · rw [Ipv4.pieces_text] at hpiece
      obtain ⟨n, -, rfl⟩ := List.mem_map.mp hpiece
      have hx : 'x' ∈ Nat.toDigits 10 n := hpunycode.mem (by decide)
      exact absurd (Text.isDigit_of_mem_toDigits hx) (by decide)

/-! ## Names of general hosts -/

/-- The characters of a written name. -/
def inGeneral (c : Char) : Bool := inRootless c && !isForbiddenInGeneral c

theorem inHost_of_inGeneral {c : Char} (h : inGeneral c = true) : inHost c = true :=
  of_inRootless (p := inGeneral) (fun _ hp => (Bool.and_eq_true_iff.mp hp).1)
    (by decide +kernel) h

theorem inGeneral_of_isAlphanum {c : Char} (h : c.isAlphanum = true) : inGeneral c = true :=
  of_ascii (fun _ => toNat_lt_of_isAlphanum) (by decide +kernel) h

theorem inGeneral_of_mem_escape {cs : List Char} (h : cs.any isForbiddenInGeneral = false)
    {c : Char} (hc : c ∈ Text.Percent.escape inRootless cs) : inGeneral c = true := by
  rcases Text.Percent.mem_escape hc with ⟨hc, hkeeps⟩ | rfl | hc
  · simp [inGeneral, hkeeps, List.any_eq_false.mp h c hc]
  · decide
  · exact inGeneral_of_isAlphanum hc

theorem readBack_empty : ReadBack ofGeneral .empty where
  read_text := rfl
  inHost_text _ hc := absurd hc (by simp [text])
  colons := Or.inl (by simp [text])

theorem readBack_general {cs : List Char} (hne : cs ≠ []) (h : ∀ c ∈ cs, inGeneral c = true) :
    ReadBack ofGeneral (.name cs) where
  read_text := by
    have hself : Text.Percent.escape inRootless cs = cs :=
      Text.Percent.escape_eq_self fun c hc => (Bool.and_eq_true_iff.mp (h c hc)).1
    have hplain : cs.any isForbiddenInGeneral = false := by
      refine List.any_eq_false.mpr fun c hc => ?_
      simpa using (Bool.and_eq_true_iff.mp (h c hc)).2
    rw [text, ofGeneral, hplain, hself]
    · rfl
    · exact hne
    · rintro rest rfl
      exact absurd (h '[' List.mem_cons_self) (by decide)
  inHost_text c hc := inHost_of_inGeneral (h c hc)
  colons := Or.inl ⟨fun hm => absurd (h _ hm) (by decide), fun hm => absurd (h _ hm) (by decide)⟩

/-- A host of a general URL is read back from its text, however it was written. -/
theorem readBack_ofGeneral {cs : List Char} {h : Host} (hr : ofGeneral cs = .ok h) :
    ReadBack ofGeneral h := by
  unfold ofGeneral at hr
  split at hr
  · cases hr
    exact readBack_empty
  · exact readBack_of_ofBracketed (fun _ => rfl) hr
  · next hne _ =>
    split at hr
    · cases hr
    · next hany =>
      cases hr
      exact readBack_general (Text.Percent.escape_ne_nil hne) fun c hc =>
        inGeneral_of_mem_escape (Bool.eq_false_iff.mpr hany) hc

end FacetFilter.Url.Host
