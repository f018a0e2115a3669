import FacetFilter.Proofs.Text.Pieces
import FacetFilter.Proofs.Text.Utf8
import FacetFilter.Text.FormEncoded
import Mathlib.Data.List.Basic

/-! Form-urlencoded text read back. Every character is written so that reading resolves it to
its own octets, whatever follows; a comma that was left as it is passes through both ways. The
written form of a text holds none of the characters that separate lists, parameters or the
parts of a URL. -/

namespace FacetFilter.Text

namespace Percent

/-- What a check finds of all sixteen digits holds of each. -/
theorem of_all_digits {p : Char → Bool} (h : (List.range 16).all (fun m => p (digit m)) = true)
    {n : Nat} (hn : n < 16) : p (digit n) = true :=
  List.all_eq_true.mp h n (List.mem_range.mpr hn)

theorem toNat_digit_lt {n : Nat} (h : n < 16) : (digit n).toNat < 0x80 :=
  of_decide_eq_true (of_all_digits (p := (·.toNat < 0x80)) (by decide) h)

theorem isAlphanum_digit {n : Nat} (h : n < 16) : (digit n).isAlphanum = true :=
  of_all_digits (by decide) h

theorem unescape_cons_of_ne {b : UInt8} (h : b ≠ 0x25) (rest : List UInt8) :
    unescape (b :: rest) = b :: unescape rest := by
  match rest with
  | [] => rfl
  | [_] => rfl
  | _ :: _ :: _ => rw [unescape, if_neg h]

/-- The octets of one escape resolve to the octet it stands for. -/
theorem unescape_escaped (b : UInt8) (rest : List UInt8) :
    unescape (Utf8.encode (escapeOctet b) ++ rest) = b :: unescape rest := by
  have hb : b.toNat < 256 := b.toNat_lt
  have hhigh : b.toNat / 16 < 16 := by omega
  have hlow : b.toNat % 16 < 16 := by omega
  have val : ∀ {m}, m < 16 → (UInt8.ofNat (digit m).toNat).toNat = (digit m).toNat := by
    intro m hm
    have := toNat_digit_lt hm
    rw [UInt8.toNat_ofNat']
    omega
  simp only [escapeOctet, Utf8.encode_cons, Utf8.encode_nil, List.append_nil,
    Utf8.utf8EncodeChar_of_ascii (toNat_digit_lt hhigh),
    Utf8.utf8EncodeChar_of_ascii (toNat_digit_lt hlow), List.cons_append, List.nil_append,
    Utf8.utf8EncodeChar_of_ascii (show '%'.toNat < 0x80 by decide)]
  rw [unescape, if_pos (by decide), val hhigh, val hlow, digitValue?_digit hhigh,
    digitValue?_digit hlow]
  have : 16 * (b.toNat / 16) + b.toNat % 16 = b.toNat := by omega
  simp [this]

theorem octet_ne_of_ne {c : Char} (hc : c.toNat < 0x80) (h : c ≠ '%') :
    UInt8.ofNat c.toNat ≠ 0x25 := by
  intro he
  have hval := congrArg UInt8.toNat he
  rw [UInt8.toNat_ofNat', Nat.mod_eq_of_lt (by omega)] at hval
  exact h (Char.toNat_inj.mp hval)

/-- Octets without a percent sign have no escapes. -/
theorem unescape_of_notMem {bs : List UInt8} (h : 0x25 ∉ bs) : unescape bs = bs := by
  induction bs with
  | nil => rfl
  | cons b bs ih =>
    rw [List.mem_cons, not_or] at h
    rw [unescape_cons_of_ne (Ne.symm h.1), ih h.2]

/-- Text of ASCII without a percent sign resolves to itself. -/
theorem unescape_encode_of_notMem {cs : List Char} (hascii : ∀ c ∈ cs, c.toNat < 0x80)
    (h : '%' ∉ cs) : unescape (Utf8.encode cs) = Utf8.encode cs := by
  refine unescape_of_notMem fun hm => ?_
  obtain ⟨c, hc, hb⟩ := List.mem_flatMap.mp hm
  rw [Utf8.utf8EncodeChar_of_ascii (hascii c hc), List.mem_singleton] at hb
  exact octet_ne_of_ne (hascii c hc) (fun he => h (he ▸ hc)) hb.symm

theorem mem_escapeOctet {b : UInt8} {c : Char} (h : c ∈ escapeOctet b) :
    c = '%' ∨ c.isAlphanum = true := by
  have hb : b.toNat < 256 := b.toNat_lt
  simp only [escapeOctet, List.mem_cons, List.not_mem_nil, or_false] at h
  rcases h with rfl | rfl | rfl
  · exact Or.inl rfl
  · exact Or.inr (isAlphanum_digit (by omega))
  · exact Or.inr (isAlphanum_digit (by omega))

/-- What an escaped text is made of. -/
theorem mem_escape {keeps : Char → Bool} {cs : List Char} {c : Char} (h : c ∈ escape keeps cs) :
    (c ∈ cs ∧ keeps c = true) ∨ c = '%' ∨ c.isAlphanum = true := by
  obtain ⟨d, hd, hc⟩ := List.mem_flatMap.mp h
  split at hc
  · next hk =>
    obtain rfl := List.mem_singleton.mp hc
    exact Or.inl ⟨hd, hk⟩
  · obtain ⟨b, -, hb⟩ := List.mem_flatMap.mp hc
    exact Or.inr (mem_escapeOctet hb)

theorem escapeChar_ne_nil (c : Char) : escapeChar c ≠ [] := by
  cases hb : String.utf8EncodeChar c with
  | nil => exact absurd hb String.utf8EncodeChar_ne_nil
  | cons b bs => simp [escapeChar, hb, escapeOctet]

theorem escape_ne_nil {keeps : Char → Bool} {cs : List Char} (h : cs ≠ []) :
    escape keeps cs ≠ [] := by
  cases cs with
  | nil => exact absurd rfl h
  | cons c cs =>
    rw [escape, List.flatMap_cons]
    split
    · simp
    · simp [escapeChar_ne_nil]

theorem escape_append (keeps : Char → Bool) (cs ds : List Char) :
    escape keeps (cs ++ ds) = escape keeps cs ++ escape keeps ds := List.flatMap_append

/-- What the escaped form of one character is made of. -/
theorem mem_escape_singleton {keeps : Char → Bool} {c d : Char} (h : d ∈ escape keeps [c]) :
    d = c ∨ d = '%' ∨ d.isAlphanum = true :=
  (mem_escape h).imp_left fun hd => List.mem_singleton.mp hd.1

/-- Escaping begins with what the text begins with, or with an escape. -/
theorem head?_escape {keeps : Char → Bool} {cs : List Char} {d : Char}
    (h : (escape keeps cs).head? = some d) :
    cs.head? = some d ∨ d = '%' ∨ d.isAlphanum = true := by
  cases cs with
  | nil => cases h
  | cons c rest =>
    rw [← List.singleton_append, escape_append,
      List.head?_append_of_ne_nil _ (escape_ne_nil (List.cons_ne_nil c []))] at h
    refine (mem_escape_singleton (List.mem_of_mem_head? h)).imp_left fun hd => ?_
    rw [hd, List.head?_cons]

/-- Escaping ends with what the text ends with, or with an escape. -/
theorem getLast?_escape {keeps : Char → Bool} {cs : List Char} {d : Char}
    (h : (escape keeps cs).getLast? = some d) :
    cs.getLast? = some d ∨ d = '%' ∨ d.isAlphanum = true := by
  rcases List.eq_nil_or_concat cs with rfl | ⟨init, c, rfl⟩
  · cases h
  · rw [List.concat_eq_append] at h ⊢
    rw [escape_append,
      List.getLast?_append_of_ne_nil _ (escape_ne_nil (List.cons_ne_nil c []))] at h
    refine (mem_escape_singleton (List.mem_of_getLast? h)).imp_left fun hd => ?_
    rw [hd, List.getLast?_concat]

/-! ### Text in which every escape is whole -/

/-- A hexadecimal digit in upper case. -/
def isUpperDigit (c : Char) : Bool := c.isDigit || 'A' ≤ c && c ≤ 'F'

/-- Every percent sign begins an escape with upper-case digits. -/
def WellEscaped (cs : List Char) : Prop :=
  ∀ before after, cs = before ++ '%' :: after →
    ∃ high low rest, after = high :: low :: rest ∧ isUpperDigit high = true ∧
      isUpperDigit low = true

theorem isUpperDigit_digit {n : Nat} (h : n < 16) : isUpperDigit (digit n) = true :=
  of_all_digits (by decide) h

theorem wellEscaped_of_notMem {cs : List Char} (h : '%' ∉ cs) : WellEscaped cs := by
  rintro before after rfl
  exact absurd (by simp) h

theorem WellEscaped.append {cs ds : List Char} (hcs : WellEscaped cs) (hds : WellEscaped ds) :
    WellEscaped (cs ++ ds) := by
  intro before after h
  rcases List.append_eq_append_iff.mp h with ⟨between, rfl, hrest⟩ | ⟨within, rfl, hrest⟩
  · exact hds between after hrest
  · cases within with
    | nil => exact hds [] after hrest.symm
    | cons sign within =>
      obtain ⟨rfl, rfl⟩ := List.cons.inj hrest
      obtain ⟨high, low, rest, rfl, hdigits⟩ := hcs before within rfl
      exact ⟨high, low, rest ++ ds, rfl, hdigits⟩

theorem wellEscaped_nil : WellEscaped [] := wellEscaped_of_notMem List.not_mem_nil

theorem wellEscaped_escapeOctet (b : UInt8) : WellEscaped (escapeOctet b) := by
  have hb : b.toNat < 256 := b.toNat_lt
  have hhigh := isUpperDigit_digit (n := b.toNat / 16) (by omega)
  have hlow := isUpperDigit_digit (n := b.toNat % 16) (by omega)
  intro before after h
  cases before with
  | nil =>
    obtain ⟨-, rfl⟩ := List.cons.inj h
    exact ⟨_, _, [], rfl, hhigh, hlow⟩
  | cons first before =>
    -- The digits of the escape are no percent signs.
    have hmem : '%' ∈ [digit (b.toNat / 16), digit (b.toNat % 16)] := by
      rw [(List.cons.inj h).2]
      simp
    simp only [List.mem_cons, List.not_mem_nil, or_false] at hmem
    rcases hmem with he | he
    · rw [← he] at hhigh
      cases hhigh
    · rw [← he] at hlow
      cases hlow

theorem wellEscaped_flatMap {α : Type} {l : List α} {f : α → List Char}
    (h : ∀ a ∈ l, WellEscaped (f a)) : WellEscaped (l.flatMap f) := by
  induction l with
  | nil => exact wellEscaped_nil
  | cons a l ih =>
    rw [List.forall_mem_cons] at h
    rw [List.flatMap_cons]
    exact h.1.append (ih h.2)

theorem wellEscaped_join {sep : Char} (hsep : sep ≠ '%') {parts : List (List Char)}
    (h : ∀ part ∈ parts, WellEscaped part) : WellEscaped (join sep parts) := by
  have hone : WellEscaped [sep] := wellEscaped_of_notMem (by simpa using hsep.symm)
  induction parts with
  | nil => exact wellEscaped_nil
  | cons part rest ih =>
    rw [List.forall_mem_cons] at h
    cases rest with
    | nil => simpa using h.1
    | cons next rest =>
      rw [join_cons_cons]
      exact h.1.append (hone.append (ih h.2))

end Percent

namespace FormEncoded

/-- The characters that a written text consists of. -/
def isWritten (c : Char) : Bool := keeps c || c == '+' || c == '%'

@[simp] theorem octets_nil : octets [] = [] := rfl

@[simp] theorem octets_append (cs ds : List Char) : octets (cs ++ ds) = octets cs ++ octets ds := by
  simp [octets]

@[simp] theorem encode_nil : encode [] = [] := rfl

@[simp] theorem encode_cons (c : Char) (cs : List Char) :
    encode (c :: cs) = encodeChar c ++ encode cs := rfl

theorem toNat_lt_of_keeps {c : Char} (h : keeps c = true) : c.toNat < 0x80 := by
  simp only [keeps, Bool.or_eq_true, beq_iff_eq] at h
  rcases h with (((h | h) | h) | h) | h
  · have hclass : ((c.isUpper || c.isLower) || c.isDigit) = true := h
    have hupper : c.isUpper = true → c.val ≤ 'Z'.val := fun h => (of_decide_eq_true h).2
    have hlower : c.isLower = true → c.val ≤ 'z'.val := fun h =>
      of_decide_eq_true (Bool.and_eq_true_iff.mp h).2
    have hdigit : c.isDigit = true → c.val ≤ '9'.val := fun h =>
      of_decide_eq_true (Bool.and_eq_true_iff.mp h).2
    have : c.val.toNat ≤ 122 := by
      rcases Bool.or_eq_true_iff.mp hclass with h | h
      · rcases Bool.or_eq_true_iff.mp h with h | h
        · exact Nat.le_trans (hupper h) (by decide)
        · exact hlower h
      · exact Nat.le_trans (hdigit h) (by decide)
    exact Nat.lt_of_le_of_lt this (by decide)
  all_goals subst h; decide

theorem octets_of_notMem {cs : List Char} (h : '+' ∉ cs) : octets cs = Utf8.encode cs := by
  have hmap : (cs.map fun c => if c = '+' then ' ' else c) = cs := by
    refine List.map_congr_left (g := id) (fun c hc => if_neg ?_) |>.trans (List.map_id cs)
    rintro rfl
    exact h hc
  rw [octets, hmap]

theorem unescape_escapeOctet (b : UInt8) (rest : List UInt8) :
    Percent.unescape (octets (Percent.escapeOctet b) ++ rest) = b :: Percent.unescape rest := by
  have hb : b.toNat < 256 := b.toNat_lt
  have digit_ne : ∀ {n}, n < 16 → '+' ≠ Percent.digit n := by
    intro n hn he
    exact absurd (Percent.isAlphanum_digit hn) (by rw [← he]; decide)
  have hplus : '+' ∉ Percent.escapeOctet b := by
    simp only [Percent.escapeOctet, List.mem_cons, List.not_mem_nil, or_false, not_or]
    exact ⟨by decide, digit_ne (by omega), digit_ne (by omega)⟩
  rw [octets_of_notMem hplus, Percent.unescape_escaped]

theorem unescape_escapeOctets (bs rest : List UInt8) :
    Percent.unescape (octets (bs.flatMap Percent.escapeOctet) ++ rest) =
      bs ++ Percent.unescape rest := by
  induction bs with
  | nil => rfl
  | cons b bs ih =>
    rw [List.flatMap_cons, octets_append, List.append_assoc, unescape_escapeOctet, ih,
      List.cons_append]

/-- A character that is neither `+` nor `%` resolves to its own octet. -/
theorem unescape_literal {c : Char} (hc : c.toNat < 0x80) (hplus : c ≠ '+') (hpercent : c ≠ '%')
    (rest : List UInt8) :
    Percent.unescape (octets [c] ++ rest) = String.utf8EncodeChar c ++ Percent.unescape rest := by
  simp only [octets, List.map_cons, List.map_nil, if_neg hplus, Utf8.encode_cons,
    Utf8.encode_nil, Utf8.utf8EncodeChar_of_ascii hc, List.append_nil, List.cons_append,
    List.nil_append]
  exact Percent.unescape_cons_of_ne (Percent.octet_ne_of_ne hc hpercent) rest

/-- Whatever follows a written character, reading resolves it to the octets of the character. -/
theorem unescape_encodeChar (c : Char) (rest : List UInt8) :
    Percent.unescape (octets (encodeChar c) ++ rest) =
      String.utf8EncodeChar c ++ Percent.unescape rest := by
  unfold encodeChar
  split
  · next hk =>
    refine unescape_literal (toNat_lt_of_keeps hk) ?_ ?_ rest <;>
      (rintro rfl; exact absurd hk (by decide))
  · split
    · next hs =>
      subst hs
      exact Percent.unescape_cons_of_ne (by decide) rest
    · exact unescape_escapeOctets _ rest

theorem unescape_encode (cs : List Char) (rest : List UInt8) :
    Percent.unescape (octets (encode cs) ++ rest) = Utf8.encode cs ++ Percent.unescape rest := by
  induction cs with
  | nil => rfl
  | cons c cs ih =>
    rw [encode_cons, octets_append, List.append_assoc, unescape_encodeChar, ih, Utf8.encode_cons,
      List.append_assoc]

/-- Texts that were written one by one and joined by literal commas resolve to the octets of
the joined texts. -/
theorem unescape_join_encode (parts : List (List Char)) :
    Percent.unescape (octets (join ',' (parts.map encode))) = Utf8.encode (join ',' parts) := by
  induction parts with
  | nil => rfl
  | cons part rest ih =>
    cases rest with
    | nil => simpa [join, Percent.unescape] using unescape_encode part []
    | cons next rest =>
      simp only [join, List.map_cons, List.intercalate_cons_cons, octets_append,
        List.append_assoc, Utf8.encode_append] at ih ⊢
      rw [unescape_encode, unescape_literal (by decide) (by decide) (by decide), ih]
      simp

theorem decode_join_encode (parts : List (List Char)) :
    decode (join ',' (parts.map encode)) = join ',' parts := by
  rw [decode, unescape_join_encode, Utf8.decodeLossy_encode]

/-- A character that is neither `+` nor `%` is read as itself, whatever follows. -/
theorem decode_cons {c : Char} (hc : c.toNat < 0x80) (hplus : c ≠ '+') (hpercent : c ≠ '%')
    (cs : List Char) : decode (c :: cs) = c :: decode cs := by
  have hunescape := unescape_literal hc hplus hpercent (octets cs)
  rw [← octets_append, List.singleton_append] at hunescape
  rw [decode, hunescape, Utf8.decodeLossy, Utf8.scan_utf8EncodeChar]
  rfl

/-- Reading gives back the text that was written. -/
theorem decode_encode (cs : List Char) : decode (encode cs) = cs := by
  simpa [join] using decode_join_encode [cs]

/-- Different texts have different written forms. -/
theorem encode_injective {cs ds : List Char} (h : encode cs = encode ds) : cs = ds := by
  rw [← decode_encode cs, h, decode_encode]

theorem encode_of_keeps {cs : List Char} (h : ∀ c ∈ cs, keeps c = true) : encode cs = cs := by
  induction cs with
  | nil => rfl
  | cons c cs ih =>
    rw [List.forall_mem_cons] at h
    rw [encode_cons, ih h.2, encodeChar, if_pos h.1, List.singleton_append]

theorem decode_of_keeps {cs : List Char} (h : ∀ c ∈ cs, keeps c = true) : decode cs = cs := by
  have := decode_encode cs
  rwa [encode_of_keeps h] at this

theorem isWritten_of_mem_escapeOctet {b : UInt8} {c : Char} (h : c ∈ Percent.escapeOctet b) :
    isWritten c = true := by
  rcases Percent.mem_escapeOctet h with rfl | h
  · decide
  · simp [isWritten, keeps, h]

theorem isWritten_of_mem_encode {c : Char} {cs : List Char} (h : c ∈ encode cs) :
    isWritten c = true := by
  obtain ⟨d, -, hc⟩ := List.mem_flatMap.mp h
  unfold encodeChar at hc
  split at hc
  · next hk =>
    rw [List.mem_singleton.mp hc]
    simp [isWritten, hk]
  · split at hc
    · rw [List.mem_singleton.mp hc]
      decide
    · obtain ⟨b, -, hb⟩ := List.mem_flatMap.mp hc
      exact isWritten_of_mem_escapeOctet hb

/-- A character that no written text consists of separates written texts. -/
theorem notMem_encode {sep : Char} (h : isWritten sep = false) (cs : List Char) :
    sep ∉ encode cs := by
  intro hm
  rw [isWritten_of_mem_encode hm] at h
  exact absurd h (by decide)

theorem wellEscaped_encode (cs : List Char) : Percent.WellEscaped (encode cs) := by
  refine Percent.wellEscaped_flatMap fun c _ => ?_
  unfold encodeChar
  split
  · next hkeeps =>
    refine Percent.wellEscaped_of_notMem fun hm => ?_
    rw [← List.mem_singleton.mp hm] at hkeeps
    cases hkeeps
  · split
    · exact Percent.wellEscaped_of_notMem (by simp)
    · exact Percent.wellEscaped_flatMap fun b _ => Percent.wellEscaped_escapeOctet b

/-- The first `=` ends the key. -/
theorem pair_append {key : List Char} (h : '=' ∉ key) (value : List Char) :
    pair (key ++ '=' :: value) = (decode key, decode value) := by
  simp [pair, cut_append_cons h]

/-- An ampersand ends what stands before it. -/
theorem pairs_append_cons (before after : List Char) :
    pairs (before ++ '&' :: after) = pairs before ++ pairs after := by
  rw [pairs, pieces_append_cons, List.filter_append, List.map_append]
  rfl

/-- Joined texts, whatever they hold, give their pairs one after another. -/
theorem pairs_join_eq_flatMap (parts : List (List Char)) :
    pairs (join '&' parts) = parts.flatMap pairs := by
  cases parts with
  | nil => rfl
  | cons part rest =>
    rw [pairs, pieces_join (List.cons_ne_nil part rest), List.filter_flatMap, List.map_flatMap]
    rfl

/-- Joined parts are read one by one, and empty ones are passed over. -/
theorem pairs_join {parts : List (List Char)} (h : ∀ part ∈ parts, '&' ∉ part) :
    pairs (join '&' parts) = (parts.filter (!·.isEmpty)).map pair := by
  cases parts with
  | nil => rfl
  | cons part rest => rw [pairs, pieces, join, List.splitOn_intercalate '&' h (by simp)]

end FormEncoded

end FacetFilter.Text
