import FacetFilter.Proofs.Session.Toggles
import FacetFilter.Text.Utf8

/-! Spellings of AS numbers. A number is spelled with the letters in any case or without them, and
with any number of zeros in front; of all its spellings one is canonical. What spells no number, or
one that is too large, is taken as it is. So values are one member of a selection when they are
equal or name one number. -/

namespace FacetFilter.AsNumber

open Text (DigitsOf)
open Text.Utf8 (size takeOctets dropOctets)

/-- What may stand before the digits of a number. -/
def fronts : List (List Char) := ["", "as", "aS", "As", "AS"].map String.toList

/-- Whether a value is a number, with or without letters before its digits. -/
def Spells (v : String) (k : Nat) : Prop :=
  ∃ front ∈ fronts, ∃ digits, v.toList = front ++ digits ∧ DigitsOf k digits

/-- Whether a value is the letters in upper case and a number without zeros in front. -/
def SpellsPlainly (v : String) (k : Nat) : Prop :=
  ∃ digits, v.toList = 'A' :: 'S' :: digits ∧ DigitsOf k digits ∧
    (digits.head? = some '0' → digits = ['0'])

/-! ## The letters -/

theorem eq_or_of_toLower_eq {c d : Char} (h : c.toLower = d) : c = d ∨ c.toNat + 32 = d.toNat := by
  unfold Char.toLower at h
  split at h
  · next hrange =>
    right
    have hle : c.val.toNat ≤ 90 := UInt32.le_iff_toNat_le.mp hrange.2
    rw [← h]
    show c.val.toNat + 32 = (c.val + 32).toNat
    rw [UInt32.toNat_add]
    exact (Nat.mod_eq_of_lt (show c.val.toNat + 32 < 2 ^ 32 by omega)).symm
  · exact Or.inl h

theorem eq_of_toLower_eq_a {c : Char} (h : c.toLower = 'a') : c = 'a' ∨ c = 'A' :=
  (eq_or_of_toLower_eq h).imp_right fun hnat => Char.toNat_inj.mp (Nat.add_right_cancel hnat)

theorem eq_of_toLower_eq_s {c : Char} (h : c.toLower = 's') : c = 's' ∨ c = 'S' :=
  (eq_or_of_toLower_eq h).imp_right fun hnat => Char.toNat_inj.mp (Nat.add_right_cancel hnat)

/-- Two characters that are the letters in some case. -/
theorem mem_fronts_of_toLower {a s : Char} (ha : a.toLower = 'a') (hs : s.toLower = 's') :
    [a, s] ∈ fronts := by
  rcases eq_of_toLower_eq_a ha with rfl | rfl <;> rcases eq_of_toLower_eq_s hs with rfl | rfl <;>
    decide

/-- Nothing but a front is taken from a value. -/
theorem exists_front (cs : List Char) : ∃ front ∈ fronts, cs = front ++ withoutLetters cs := by
  unfold withoutLetters
  split
  · split
    · next h => exact ⟨_, mem_fronts_of_toLower h.1 h.2, rfl⟩
    · exact ⟨[], by decide, rfl⟩
  · exact ⟨[], by decide, rfl⟩

theorem toLower_ne_of_isDigit {c : Char} (h : c.isDigit = true) : c.toLower ≠ 'a' := by
  intro hlower
  rcases eq_of_toLower_eq_a hlower with rfl | rfl <;> exact absurd h (by decide)

/-- Digits are all that is left of a front and digits. -/
theorem withoutLetters_append {front digits : List Char} {k : Nat} (hfront : front ∈ fronts)
    (hdigits : DigitsOf k digits) : withoutLetters (front ++ digits) = digits := by
  simp only [fronts, List.map_cons, List.map_nil, List.mem_cons, List.not_mem_nil, or_false]
    at hfront
  rcases hfront with rfl | rfl | rfl | rfl | rfl
  · show withoutLetters digits = digits
    unfold withoutLetters
    split
    · next d e rest =>
      rw [if_neg fun h => toLower_ne_of_isDigit (hdigits.isDigit d List.mem_cons_self) h.1]
    · rfl
  all_goals rfl

/-! ## Octets

The letters are ASCII, so that a value which begins with their octets begins with them. -/

theorem takeOctets_zero (cs : List Char) : takeOctets 0 cs = [] := by
  cases cs with
  | nil => rfl
  | cons c rest => rw [takeOctets, if_neg (Nat.not_le_of_lt c.utf8Size_pos)]

theorem dropOctets_zero (cs : List Char) : dropOctets 0 cs = cs := by
  cases cs with
  | nil => rfl
  | cons c rest => rw [dropOctets, if_pos rfl]

theorem takeOctets_isPrefix (count : Nat) (cs : List Char) : takeOctets count cs <+: cs := by
  induction cs generalizing count with
  | nil => exact List.prefix_rfl
  | cons c rest ih =>
    rw [takeOctets]
    split
    · exact List.cons_prefix_cons.mpr ⟨rfl, ih _⟩
    · exact List.nil_prefix

/-- Letters and the rest of a value are apart after the second octet. -/
theorem octets_of_letters {a s : Char} (ha : a.toLower = 'a') (hs : s.toLower = 's')
    (rest : List Char) :
    takeOctets 2 (a :: s :: rest) = [a, s] ∧ dropOctets 2 (a :: s :: rest) = rest ∧
      size [a, s] = 2 := by
  have htake := takeOctets_zero rest
  have hdrop := dropOctets_zero rest
  rcases eq_of_toLower_eq_a ha with rfl | rfl <;> rcases eq_of_toLower_eq_s hs with rfl | rfl <;>
    exact ⟨congrArg (_ :: _ :: ·) htake, hdrop, rfl⟩

/-- Looking for the letters among the first two octets, and cutting the value after them, is safe:
no character lies across the cut. -/
theorem withoutLetters_octets (cs : List Char) :
    let front := takeOctets 2 cs
    (front.map Char.toLower = ['a', 's'] →
      size front = 2 ∧ cs = front ++ dropOctets 2 cs ∧ withoutLetters cs = dropOctets 2 cs) ∧
    (front.map Char.toLower ≠ ['a', 's'] → withoutLetters cs = cs) := by
  intro front
  constructor
  · intro hletters
    obtain ⟨rest, hcs⟩ : ∃ rest, front ++ rest = cs := takeOctets_isPrefix 2 cs
    obtain ⟨a, more, hfront, ha, hmore⟩ := List.map_eq_cons_iff.mp hletters
    obtain ⟨s, last, rfl, hs, hlast⟩ := List.map_eq_cons_iff.mp hmore
    obtain rfl := List.map_eq_nil_iff.mp hlast
    obtain ⟨-, hdrop, hsize⟩ := octets_of_letters ha hs rest
    have hcs : cs = a :: s :: rest := by rw [← hcs, hfront]; rfl
    rw [hfront, hcs, hdrop]
    exact ⟨hsize, rfl, if_pos ⟨ha, hs⟩⟩
  · intro hother
    unfold withoutLetters
    split
    · next a s rest =>
      refine if_neg fun hletters => hother ?_
      show (takeOctets 2 (a :: s :: rest)).map Char.toLower = ['a', 's']
      rw [(octets_of_letters hletters.1 hletters.2 rest).1, List.map_cons, List.map_cons,
        hletters.1, hletters.2, List.map_nil]
    · rfl

/-! ## Reading -/

theorem ofDigits?_eq_some_iff {digits : List Char} {n : AsNumber} :
    ofDigits? digits = some n ↔ DigitsOf n.toNat digits := by
  rw [Text.digitsOf_iff, ofDigits?]
  constructor
  · intro h
    split at h
    · next hplain =>
      dsimp only at h
      split at h
      · cases h
        exact ⟨hplain.1, List.all_eq_true.mp hplain.2, UInt32.toNat_ofNatLT.symm⟩
      · cases h
    · cases h
  · rintro ⟨hne, hdigit, hworth⟩
    have hlt : Nat.ofDigitChars 10 digits 0 < UInt32.size := hworth ▸ n.toNat_lt
    rw [if_pos ⟨hne, List.all_eq_true.mpr hdigit⟩]
    dsimp only
    rw [dif_pos hlt]
    exact congrArg some (UInt32.toNat_inj.mp (UInt32.toNat_ofNatLT.trans hworth))

/-- A value names the number that it spells. -/
theorem ofText?_eq_some_iff {v : String} {n : AsNumber} :
    ofText? v = some n ↔ Spells v n.toNat := by
  rw [ofText?, ofDigits?_eq_some_iff]
  constructor
  · intro h
    obtain ⟨front, hfront, hv⟩ := exists_front v.toList
    exact ⟨front, hfront, _, hv, h⟩
  · rintro ⟨front, hfront, digits, hv, hdigits⟩
    rwa [hv, withoutLetters_append hfront hdigits]

/-- What names a number spells one that fits into 32 bits. -/
theorem map_toNat_ofText?_eq_some_iff {v : String} {k : Nat} :
    (ofText? v).map UInt32.toNat = some k ↔ Spells v k ∧ k < 2 ^ 32 := by
  rw [Option.map_eq_some_iff]
  constructor
  · rintro ⟨n, hn, rfl⟩
    exact ⟨ofText?_eq_some_iff.mp hn, n.toNat_lt⟩
  · rintro ⟨hspells, hlt⟩
    have hk : (UInt32.ofNatLT k hlt).toNat = k := UInt32.toNat_ofNatLT
    exact ⟨_, ofText?_eq_some_iff.mpr (hk.symm ▸ hspells), hk⟩

/-! ## Canonical forms -/

theorem spellsPlainly_text (n : AsNumber) : SpellsPlainly n.text n.toNat := by
  refine ⟨Nat.toDigits 10 n.toNat, n.toList_text, Text.digitsOf_toDigits _, fun hzero => ?_⟩
  rw [Text.eq_zero_of_head?_toDigits hzero]
  rfl

/-- The canonical form of a spelling is the plain one. -/
theorem spellsPlainly_canonical {v : String} {k : Nat} (h : Spells v k) (hk : k < 2 ^ 32) :
    SpellsPlainly (canonical v) k := by
  obtain ⟨n, hn, rfl⟩ := Option.map_eq_some_iff.mp (map_toNat_ofText?_eq_some_iff.mpr ⟨h, hk⟩)
  rw [canonical, hn]
  exact spellsPlainly_text n

/-- What spells no number that fits is left as it is. -/
theorem canonical_of_not_spells {v : String} (h : ∀ k < 2 ^ 32, ¬Spells v k) : canonical v = v := by
  cases hn : ofText? v with
  | none => rw [canonical, hn]
  | some n => exact absurd (ofText?_eq_some_iff.mp hn) (h _ n.toNat_lt)

theorem canonical_eq_iff {v w : String} :
    canonical v = canonical w ↔ v = w ∨ ∃ n, ofText? v = some n ∧ ofText? w = some n := by
  constructor
  · intro h
    have hnames : ofText? v = ofText? w := by rw [← ofText?_canonical v, h, ofText?_canonical w]
    cases hn : ofText? w with
    | none =>
      rw [hn] at hnames
      rw [canonical, canonical, hnames, hn] at h
      exact Or.inl h
    | some n => exact Or.inr ⟨n, hnames.trans hn, rfl⟩
  · rintro (rfl | ⟨n, hv, hw⟩)
    · rfl
    · rw [canonical, canonical, hv, hw]

/-! ## Toggles -/

theorem normalForm?_eq_some_text_iff {w : String} {n : AsNumber} :
    normalForm? .asn w = some n.text ↔ ofText? (Text.trimmed w) = some n := by
  rw [normalForm?_eq_some_iff]
  constructor
  · rintro ⟨-, hform⟩
    have hcanonical : canonical (Text.trimmed w) = n.text := hform
    rw [← ofText?_canonical, hcanonical, ofText?_text]
  · intro h
    refine ⟨fun hblank => ?_, ?_⟩
    · rw [Text.trimmed, hblank] at h
      cases h
    · show canonical (Text.trimmed w) = n.text
      rw [canonical, h]

theorem normalForm?_text (n : AsNumber) : normalForm? .asn n.text = some n.text := by
  rw [normalForm?_eq_some_text_iff, Text.trimmed, trim_text, String.ofList_toList, ofText?_text]

theorem toggle_eq_toggleAsn {s : Session} {n : AsNumber} {w : String}
    (h : ofText? (Text.trimmed w) = some n) : s.toggle .asn w = s.toggleAsn n := by
  rw [Session.toggleAsn, Session.toggle, Session.toggle, Selection.toggle, Selection.toggle,
    normalForm?_text, normalForm?_eq_some_text_iff.mpr h]

/-- Toggling a value and toggling a number flip one member exactly when the value names the
number. -/
theorem same_toggle_toggleAsn_iff {s : Session} {n : AsNumber} {w : String} :
    (s.toggle .asn w).2.working.same (s.toggleAsn n).2.working = true ↔
      ofText? (Text.trimmed w) = some n := by
  constructor
  · intro h
    rw [Session.toggleAsn, Session.snd_toggle, Session.snd_toggle] at h
    dsimp only at h
    exact normalForm?_eq_some_text_iff.mp
      (Selection.normalForm?_eq_of_same_toggle (normalForm?_text n) h)
  · intro h
    rw [toggle_eq_toggleAsn h]
    exact Selection.same_iff.mpr fun _ _ => Iff.rfl

/-- A value names a number exactly when it is one or more digits worth this number, after the
letters in any case or without them, and the number fits into 32 bits; looking for the letters never
cuts a character. Its canonical form is then the letters in upper case and the number without zeros
in front, and any other value is its own canonical form. Canonical forms name what their values
name, they are their own canonical forms, and those of two values are equal exactly when the values
are equal or name one number. So toggling a number and toggling a value flip the same member exactly
when the trimmed value names the number. -/
theorem canonical_of_spellings :
    (∀ v k, (ofText? v).map UInt32.toNat = some k ↔ Spells v k ∧ k < 2 ^ 32) ∧
    (∀ v : String, let front := takeOctets 2 v.toList
      let rest := dropOctets 2 v.toList
      (front.map Char.toLower = ['a', 's'] →
        size front = 2 ∧ v.toList = front ++ rest ∧ withoutLetters v.toList = rest) ∧
      (front.map Char.toLower ≠ ['a', 's'] → withoutLetters v.toList = v.toList)) ∧
    (∀ v k, Spells v k → k < 2 ^ 32 → SpellsPlainly (canonical v) k) ∧
    (∀ v, (∀ k < 2 ^ 32, ¬Spells v k) → canonical v = v) ∧
    (∀ n : AsNumber, SpellsPlainly n.text n.toNat ∧ ofText? n.text = some n) ∧
    (∀ v, canonical (canonical v) = canonical v ∧ ofText? (canonical v) = ofText? v) ∧
    (∀ v w, canonical v = canonical w ↔
      v = w ∨ ∃ n, ofText? v = some n ∧ ofText? w = some n) ∧
    (∀ (s : Session) (n : AsNumber) (w : String),
      ((s.toggle .asn w).2.working.same (s.toggleAsn n).2.working = true ↔
        ofText? (Text.trimmed w) = some n) ∧
      (ofText? (Text.trimmed w) = some n → s.toggle .asn w = s.toggleAsn n)) :=
  ⟨fun _ _ => map_toNat_ofText?_eq_some_iff,
    fun v => withoutLetters_octets v.toList,
    fun _ _ => spellsPlainly_canonical,
    fun _ => canonical_of_not_spells,
    fun n => ⟨spellsPlainly_text n, ofText?_text n⟩,
    fun v => ⟨canonical_canonical v, ofText?_canonical v⟩,
    fun _ _ => canonical_eq_iff,
    fun _ _ _ => ⟨same_toggle_toggleAsn_iff, toggle_eq_toggleAsn⟩⟩

/-- The largest number has spellings, the next one has none, and neither does a second pair of
letters begin one. -/
theorem canonical_of_spellings_limit :
    let s := Session.start ⟨[], ["as007"], []⟩ .sorted
    SpellsPlainly (canonical "aS004294967295") 4294967295 ∧
      canonical "AS4294967296" = "AS4294967296" ∧ canonical "ASAS7" = "ASAS7" ∧
      canonical "é1" = "é1" ∧ canonical "as0042" = canonical "42" ∧
      s.toggle .asn "\t0064512\u3000" = s.toggleAsn 64512 := by
  intro s
  obtain ⟨hreads, -, hplain, hself, -, -, hequal, htoggle⟩ := canonical_of_spellings
  have none_spelled : ∀ v, ofText? v = none → ∀ k < 2 ^ 32, ¬Spells v k := by
    intro v hv k hk hspells
    have hnamed := (hreads v k).mpr ⟨hspells, hk⟩
    rw [hv] at hnamed
    cases hnamed
  have hspells : Spells "aS004294967295" 4294967295 :=
    ⟨"aS".toList, by decide, "004294967295".toList, rfl,
      Text.digitsOf_iff.mpr ⟨by decide, List.all_eq_true.mp (by decide), rfl⟩⟩
  refine ⟨hplain _ _ hspells (by decide), hself _ (none_spelled _ (by decide)),
    hself _ (none_spelled _ (by decide)), hself _ (none_spelled _ (by decide)),
    (hequal _ _).mpr (Or.inr ⟨42, by decide, by decide⟩), ?_⟩
  exact (htoggle s 64512 _).2 (by decide)

end FacetFilter.AsNumber
