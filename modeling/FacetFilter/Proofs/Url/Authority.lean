import FacetFilter.Proofs.Url.Host
import FacetFilter.Url.Authority

/-! Authorities read back from their text. Userinfo is escaped, so the last at sign and the first
colon of an authority stand where its text puts them. An empty host has nothing beside it. -/

namespace FacetFilter.Url.Authority

variable {toAscii : List Char → Option (List Char)}

/-- An authority as reading leaves it. -/
structure Written (toAscii : List Char → Option (List Char)) (kind : Kind) (a : Authority) :
    Prop where
  readBack : a.host.ReadBack (readHost toAscii kind)
  user : ∀ c ∈ a.user, inUserinfo c = true
  password : ∀ c ∈ a.password, inUserinfo c = true
  port : ∀ n, a.port = some n → n ≤ 65535 ∧ kind ≠ .web n
  alone : a.host = .empty → a = ofHost .empty

theorem readBack_of_readHost (hmap : Host.MapsToAscii toAscii) {kind : Kind} {cs : List Char}
    {h : Host} (hr : readHost toAscii kind cs = .ok h) : h.ReadBack (readHost toAscii kind) := by
  unfold readHost at hr
  split at hr
  · next hspecial =>
    split at hr
    · cases hr
    · have hback := Host.readBack_ofSpecial hmap hr
      have hne := Host.text_ne_nil_of_ofSpecial hr
      have hread : readHost toAscii kind h.text = .ok h := by
        simpa [readHost, hspecial, hne] using hback.read_text
      exact ⟨hread, hback.inHost_text, hback.colons⟩
  · next hgeneral =>
    have hback := Host.readBack_ofGeneral hr
    have hread : readHost toAscii kind h.text = .ok h := by
      simpa [readHost, hgeneral] using hback.read_text
    exact ⟨hread, hback.inHost_text, hback.colons⟩

theorem readPort_nil (kind : Kind) : readPort kind [] = .ok (none, []) := by
  simp [readPort]

theorem readPort_digits {kind : Kind} {n : Nat} (h : n ≤ 65535) (hkind : kind ≠ .web n) :
    readPort kind (Nat.toDigits 10 n) = .ok (some n, []) := by
  have hdigits : ∀ c ∈ Nat.toDigits 10 n, c.isDigit = true := fun _ hc =>
    Text.isDigit_of_mem_toDigits hc
  have hspan := Text.span_append hdigits fun c (h : [].head? = some c) => by cases h
  have hvalue : Nat.ofDigitChars 10 (Nat.toDigits 10 n) 0 = n := by simp
  have hne : (Nat.toDigits 10 n).isEmpty = false := by simp [Nat.toDigits_ne_nil]
  rw [List.append_nil] at hspan
  rw [readPort, hspan]
  dsimp only
  rw [hvalue, hne, if_neg (by simp; omega), if_neg (by simp [hkind])]

theorem port_of_readPort {kind : Kind} {cs rest : List Char} {port : Option Nat}
    (hr : readPort kind cs = .ok (port, rest)) {n : Nat} (hn : port = some n) :
    n ≤ 65535 ∧ kind ≠ .web n := by
  unfold readPort at hr
  dsimp only at hr
  split at hr
  · cases hr
  · next hok =>
    rw [not_or, Nat.not_lt] at hok
    split at hr
    · cases hr
      cases hn
    · next hkeep =>
      rw [not_or] at hkeep
      cases hr
      cases hn
      exact ⟨hok.1, hkeep.2⟩

/-- What reading found in the four places of an authority. -/
theorem of_read {kind : Kind} {isLast : Bool} {cs rest : List Char} {a : Authority}
    (h : read toAscii kind isLast cs = .ok (a, rest)) :
    readUserinfo ((splitUserinfo cs).1.getD []) = (a.user, a.password) ∧
    readHost toAscii kind (splitHost false (splitUserinfo cs).2).1 = .ok a.host ∧
    readPort kind ((splitHost false (splitUserinfo cs).2).2.drop 1) = .ok (a.port, rest) ∧
    (a.host = .empty → (splitHost false (splitUserinfo cs).2).2 = [] ∧ a.user = [] ∧
      a.password = []) := by
  unfold read at h
  dsimp only at h
  split at h
  · cases h
  · obtain ⟨host, hhost, h⟩ := Text.bind_eq_ok_iff.mp h
    split at h
    · cases h
    · next hafter =>
      obtain ⟨⟨port, after⟩, hport, h⟩ := Text.bind_eq_ok_iff.mp h
      dsimp only at h
      split at h
      · cases h
      · next hinfo =>
        cases h
        refine ⟨rfl, hhost, hport, fun hempty => ?_⟩
        have hempty : host = .empty := hempty
        simp only [hempty, true_and, Bool.or_eq_true, not_or, Bool.not_eq_true',
          Bool.not_eq_false, List.isEmpty_iff] at hafter hinfo
        exact ⟨hafter, hinfo.1, hinfo.2⟩

/-- What is read as an authority is written without anything that reading changes. -/
theorem written_of_read (hmap : Host.MapsToAscii toAscii) {kind : Kind} {isLast : Bool}
    {cs rest : List Char} {a : Authority} (h : read toAscii kind isLast cs = .ok (a, rest)) :
    a.Written toAscii kind := by
  obtain ⟨hinfo, hhost, hport, halone⟩ := of_read h
  obtain ⟨huser, hpassword⟩ := Prod.mk.inj hinfo.symm
  refine ⟨readBack_of_readHost hmap hhost, ?_, ?_, fun n => port_of_readPort hport,
    fun hempty => ?_⟩
  · exact fun c hc => inUserinfo_of_mem_escape (huser ▸ hc)
  · exact fun c hc => inUserinfo_of_mem_escape (hpassword ▸ hc)
  · obtain ⟨hafter, hnouser, hnopassword⟩ := halone hempty
    rw [hafter, List.drop_nil, readPort_nil] at hport
    have hnoport : a.port = none := (Prod.mk.inj (Except.ok.inj hport)).1.symm
    cases a
    simp_all [ofHost]

/-! ## Reading the text -/

theorem splitUserinfo_of_notMem {cs : List Char} (h : '@' ∉ cs) :
    splitUserinfo cs = (none, cs) := by
  rw [splitUserinfo, Text.cut_of_notMem (by simpa using h)]

theorem splitUserinfo_append {after : List Char} (h : '@' ∉ after) (before : List Char) :
    splitUserinfo (before ++ '@' :: after) = (some before, after) := by
  have hreverse : (before ++ '@' :: after).reverse = after.reverse ++ '@' :: before.reverse := by
    simp
  rw [splitUserinfo, hreverse, Text.cut_append_cons (by simpa using h)]
  simp

theorem splitHost_of_notMem {cs tail : List Char} (hcolon : ':' ∉ cs) (hopen : '[' ∉ cs)
    (htail : splitHost false tail = ([], tail)) : splitHost false (cs ++ tail) = (cs, tail) := by
  induction cs with
  | nil => exact htail
  | cons c cs ih =>
    rw [List.mem_cons, not_or] at hcolon hopen
    have hc : ¬(c = ':' ∧ (!false) = true) := fun h => hcolon.1 h.1.symm
    have hb : (c == '[') = false := by simpa using Ne.symm hopen.1
    rw [List.cons_append, splitHost, if_neg hc, hb]
    simp [ih hcolon.2 hopen.2]

theorem splitHost_inBrackets {inner tail : List Char} (hclose : ']' ∉ inner)
    (htail : splitHost false tail = ([], tail)) :
    splitHost true (inner ++ ']' :: tail) = (inner ++ [']'], tail) := by
  induction inner with
  | nil => simp [splitHost, htail]
  | cons c inner ih =>
    rw [List.mem_cons, not_or] at hclose
    have hb : (c != ']') = true := by simpa using Ne.symm hclose.1
    rw [List.cons_append, splitHost, if_neg (by simp)]
    simp [hb, ih hclose.2]

/-- The text of a host ends where a port or nothing follows. -/
theorem splitHost_text {read : List Char → Except Flaw Host} {h : Host} (hback : h.ReadBack read)
    {tail : List Char} (htail : splitHost false tail = ([], tail)) :
    splitHost false (h.text ++ tail) = (h.text, tail) := by
  rcases hback.colons with ⟨hcolon, hopen⟩ | ⟨inner, htext, hclose⟩
  · exact splitHost_of_notMem hcolon hopen htail
  · rw [htext, List.append_assoc, List.cons_append, splitHost, if_neg (by decide)]
    simp [splitHost_inBrackets hclose htail]

/-- The userinfo as it stands before the at sign. -/
def userinfoText (a : Authority) : List Char :=
  a.user ++ if a.password.isEmpty then [] else ':' :: a.password

/-- The port as it stands after the host. -/
def portText : Option Nat → List Char
  | some n => ':' :: Nat.toDigits 10 n
  | none => []

theorem text_eq (a : Authority) :
    a.text = (if a.hasUserinfo then a.userinfoText ++ ['@'] else []) ++
      (a.host.text ++ portText a.port) := by
  unfold text portText userinfoText
  cases a.port <;> simp

theorem text_ofHost (h : Host) : (ofHost h).text = h.text := by
  simp [text, ofHost, hasUserinfo]

theorem splitHost_portText (port : Option Nat) :
    splitHost false (portText port) = ([], portText port) := by
  cases port <;> simp [portText, splitHost]

theorem inHost_of_mem_portText {port : Option Nat} {c : Char} (h : c ∈ portText port) :
    inHost c = true := by
  cases port with
  | none => cases h
  | some n =>
    rcases List.mem_cons.mp h with rfl | h
    · decide
    · have hdigit := Text.isDigit_of_mem_toDigits h
      exact inHost_of_inUserinfo (inUserinfo_of_isAlphanum (by simp [Char.isAlphanum, hdigit]))

namespace Written

variable {kind : Kind} {a : Authority}

theorem inHost_hostPort (h : a.Written toAscii kind) {c : Char}
    (hc : c ∈ a.host.text ++ portText a.port) : inHost c = true :=
  (List.mem_append.mp hc).elim (h.readBack.inHost_text c) inHost_of_mem_portText

theorem readPort_drop (h : a.Written toAscii kind) :
    readPort kind ((portText a.port).drop 1) = .ok (a.port, []) := by
  cases hp : a.port with
  | none => exact readPort_nil kind
  | some n => exact readPort_digits (h.port n hp).1 (h.port n hp).2

/-- The last at sign of the text is the one after the userinfo. -/
theorem splitUserinfo_text (h : a.Written toAscii kind) :
    splitUserinfo a.text =
      (if a.hasUserinfo then some a.userinfoText else none, a.host.text ++ portText a.port) := by
  have hat : '@' ∉ a.host.text ++ portText a.port := fun hm =>
    absurd (h.inHost_hostPort hm) (by decide)
  rw [text_eq]
  split
  · rw [List.append_assoc, List.singleton_append, splitUserinfo_append hat]
  · exact splitUserinfo_of_notMem hat

theorem readUserinfo_userinfoText (h : a.Written toAscii kind) :
    readUserinfo a.userinfoText = (a.user, a.password) := by
  have huser := Text.Percent.escape_eq_self h.user
  have hpassword := Text.Percent.escape_eq_self h.password
  have hcolon : ':' ∉ a.user := fun hm => absurd (h.user _ hm) (by decide)
  by_cases he : a.password = []
  · rw [he] at hpassword
    simp [readUserinfo, userinfoText, he, Text.cut_of_notMem hcolon, huser, hpassword]
  · simp [readUserinfo, userinfoText, he, Text.cut_append_cons hcolon, huser, hpassword]

/-- Absent userinfo is an empty user and an empty password. -/
theorem readUserinfo_text (h : a.Written toAscii kind) :
    readUserinfo ((if a.hasUserinfo then some a.userinfoText else none).getD []) =
      (a.user, a.password) := by
  split
  · exact h.readUserinfo_userinfoText
  · next hnone =>
    simp only [hasUserinfo, Bool.or_eq_true, not_or, Bool.not_eq_true', Bool.not_eq_false,
      List.isEmpty_iff] at hnone
    rw [hnone.1, hnone.2]
    rfl

theorem userinfoText_ne_nil (h : a.hasUserinfo = true) : a.userinfoText ≠ [] := by
  intro hnil
  obtain ⟨huser, hpassword⟩ := List.append_eq_nil_iff.mp hnil
  simp_all [hasUserinfo]

/-- An authority is read back from its text, whether or not anything follows it. -/
theorem read_text (h : a.Written toAscii kind) (isLast : Bool) :
    read toAscii kind isLast a.text = .ok (a, []) := by
  have hempty : ¬(splitUserinfo a.text).1 = some [] := by
    rw [h.splitUserinfo_text]
    split
    · next hinfo => simpa using userinfoText_ne_nil hinfo
    · simp
  have halone : a.host = .empty → portText a.port = [] ∧ a.user = [] ∧ a.password = [] := by
    intro he
    rw [h.alone he]
    exact ⟨rfl, rfl, rfl⟩
  -- Of the three tests for an empty host the first asks for an at sign with nothing before it, the
  -- others for something beside the host.
  unfold read
  dsimp only
  rw [if_neg fun hbad => hempty hbad.1, h.splitUserinfo_text, h.readUserinfo_text]
  dsimp only
  rw [splitHost_text h.readBack (splitHost_portText a.port)]
  dsimp only
  rw [h.readBack.read_text, h.readPort_drop]
  dsimp only [bind, Except.bind]
  rw [if_neg fun hbad => by simp [halone hbad.1] at hbad,
    if_neg fun hbad => by simp [halone hbad.1] at hbad]
  rfl

theorem inHost_userinfoText (h : a.Written toAscii kind) {c : Char} (hc : c ∈ a.userinfoText) :
    inHost c = true := by
  rcases List.mem_append.mp hc with hc | hc
  · exact inHost_of_inUserinfo (h.user c hc)
  · split at hc
    · cases hc
    · rcases List.mem_cons.mp hc with rfl | hc
      · decide
      · exact inHost_of_inUserinfo (h.password c hc)

theorem inAuthority_text (h : a.Written toAscii kind) {c : Char} (hc : c ∈ a.text) :
    inAuthority c = true := by
  rw [text_eq, List.mem_append] at hc
  rcases hc with hc | hc
  · split at hc
    · rcases List.mem_append.mp hc with hc | hc
      · simp [inAuthority, h.inHost_userinfoText hc]
      · rw [List.mem_singleton.mp hc]
        decide
    · cases hc
  · simp [inAuthority, h.inHost_hostPort hc]

/-- Only a general URL has an authority without text. -/
theorem text_ne_nil (h : a.Written toAscii kind) (hkind : kind.isSpecial = true) : a.text ≠ [] := by
  intro hnil
  rw [text_eq, List.append_eq_nil_iff, List.append_eq_nil_iff] at hnil
  have hread := h.readBack.read_text
  rw [hnil.2.1, readHost, if_pos hkind] at hread
  cases hread

end Written

end FacetFilter.Url.Authority
