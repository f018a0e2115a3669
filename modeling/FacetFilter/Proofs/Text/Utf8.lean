import FacetFilter.Text.Utf8

/-! Reading the octets of a text gives the text back. Each scalar value is written as a lead
octet and continuations; the machine comes to rest after the last of them with exactly that
value, whatever octets follow. -/

namespace FacetFilter.Text.Utf8

@[simp] theorem encode_nil : encode [] = [] := rfl

@[simp] theorem encode_cons (c : Char) (cs : List Char) :
    encode (c :: cs) = String.utf8EncodeChar c ++ encode cs := rfl

@[simp] theorem encode_append (cs ds : List Char) : encode (cs ++ ds) = encode cs ++ encode ds :=
  List.flatMap_append

theorem utf8EncodeChar_of_ascii {c : Char} (h : c.toNat < 0x80) :
    String.utf8EncodeChar c = [UInt8.ofNat c.toNat] := by
  have hv : c.val.toNat ≤ 0x7f := Nat.le_of_lt_succ h
  simp only [String.utf8EncodeChar, if_pos hv]
  rfl

theorem scan_cons (state : Option Pending) (b : UInt8) (rest : List UInt8) :
    scan state (b :: rest) = (step state b).1 ++ scan (step state b).2 rest := by
  cases state <;> rfl

theorem toNat_continuation {n : Nat} (hn : n < 64) : (UInt8.ofNat (n + 0x80)).toNat = n + 0x80 := by
  rw [UInt8.toNat_ofNat']
  omega

/-- The last octet of a scalar value gives its last six bits. -/
theorem scan_last {low high value n : Nat} (hlow : low ≤ n + 0x80) (hhigh : n + 0x80 ≤ high)
    (hn : n < 64) (rest : List UInt8) :
    scan (some ⟨1, low, high, value⟩) (UInt8.ofNat (n + 0x80) :: rest) =
      some (Char.ofNat (value * 64 + n)) :: scan none rest := by
  simp only [scan_cons, step, toNat_continuation hn, hlow, hhigh, and_self, if_true]
  simp

/-- An octet that others follow gives six bits, and asks nothing special of the next one. -/
theorem scan_more {need low high value n : Nat} (hlow : low ≤ n + 0x80) (hhigh : n + 0x80 ≤ high)
    (hn : n < 64) (rest : List UInt8) :
    scan (some ⟨need + 2, low, high, value⟩) (UInt8.ofNat (n + 0x80) :: rest) =
      scan (some ⟨need + 1, 0x80, 0xBF, value * 64 + n⟩) rest := by
  simp only [scan_cons, step, toNat_continuation hn, hlow, hhigh, and_self, if_true]
  simp

theorem scan_lead {b : UInt8} {p : Pending} (h : start b = ([], some p)) (rest : List UInt8) :
    scan none (b :: rest) = scan (some p) rest := by
  rw [scan_cons, step, h]
  rfl

theorem start_two {n : Nat} (h : 0xC2 ≤ n) (h' : n ≤ 0xDF) :
    start (UInt8.ofNat n) = ([], some ⟨1, 0x80, 0xBF, n - 0xC0⟩) := by
  have hval : (UInt8.ofNat n).toNat = n := by rw [UInt8.toNat_ofNat']; omega
  simp only [start, hval]
  rw [if_neg (by omega), if_pos ⟨h, h'⟩]

/-- The lead of three octets leaves room for what is neither overlong nor a surrogate. -/
theorem start_three {n : Nat} (h : 0xE0 ≤ n) (h' : n ≤ 0xEF) :
    start (UInt8.ofNat n) = ([], some ⟨2, if n = 0xE0 then 0xA0 else 0x80,
      if n = 0xED then 0x9F else 0xBF, n - 0xE0⟩) := by
  have hval : (UInt8.ofNat n).toNat = n := by rw [UInt8.toNat_ofNat']; omega
  simp only [start, hval]
  rw [if_neg (by omega), if_neg (by omega)]
  by_cases h0 : n = 0xE0
  · simp [h0]
  · by_cases h1 : n = 0xED
    · simp [h1]
    · rw [if_neg h0, if_neg h1, if_pos (by omega), if_neg h0, if_neg h1]

/-- The lead of four octets leaves room for what is neither overlong nor past U+10FFFF. -/
theorem start_four {n : Nat} (h : 0xF0 ≤ n) (h' : n ≤ 0xF4) :
    start (UInt8.ofNat n) = ([], some ⟨3, if n = 0xF0 then 0x90 else 0x80,
      if n = 0xF4 then 0x8F else 0xBF, n - 0xF0⟩) := by
  have hval : (UInt8.ofNat n).toNat = n := by rw [UInt8.toNat_ofNat']; omega
  simp only [start, hval]
  rw [if_neg (by omega), if_neg (by omega), if_neg (by omega), if_neg (by omega),
    if_neg (by omega)]
  by_cases h0 : n = 0xF0
  · simp [h0]
  · by_cases h1 : n = 0xF4
    · simp [h1]
    · rw [if_neg h0, if_pos (by omega), if_neg h0, if_neg h1]

/-- Octets of one scalar value bring the machine from rest to rest. The cases are those of the
encoder; in each the lead and the continuations carry the digits of the value in base 64. -/
theorem scan_utf8EncodeChar (c : Char) (rest : List UInt8) :
    scan none (String.utf8EncodeChar c ++ rest) = some c :: scan none rest := by
  obtain ⟨v, hv⟩ : ∃ v, c.val.toNat = v := ⟨_, rfl⟩
  have hc : Char.ofNat v = c := by rw [← hv]; exact Char.ofNat_toNat c
  have hvalid : v < 0xD800 ∨ 0xDFFF < v ∧ v < 0x110000 := by rw [← hv]; exact c.valid
  simp only [String.utf8EncodeChar, hv]
  by_cases h1 : v ≤ 0x7F
  · have hval : (UInt8.ofNat v).toNat = v := by rw [UInt8.toNat_ofNat']; omega
    rw [if_pos h1, List.singleton_append, scan_cons]
    simp [step, start, hval, Nat.lt_succ_of_le h1, hc]
  rw [if_neg h1]
  by_cases h2 : v ≤ 0x7FF
  · have hvalue : (v / 64 % 0x20 + 0xC0 - 0xC0) * 64 + v % 0x40 = v := by omega
    rw [if_pos h2, List.cons_append, List.singleton_append,
      scan_lead (start_two (by omega) (by omega)), scan_last (by omega) (by omega) (by omega),
      hvalue, hc]
  rw [if_neg h2]
  by_cases h3 : v ≤ 0xFFFF
  · have hvalue : ((v / 4096 % 0x10 + 0xE0 - 0xE0) * 64 + v / 64 % 0x40) * 64 + v % 0x40 = v := by
      omega
    rw [if_pos h3, List.cons_append, List.cons_append, List.singleton_append,
      scan_lead (start_three (by omega) (by omega)),
      scan_more (by split <;> omega) (by split <;> omega) (by omega),
      scan_last (by omega) (by omega) (by omega), hvalue, hc]
  · have hvalue : (((v / 262144 % 8 + 0xF0 - 0xF0) * 64 + v / 4096 % 0x40) * 64 +
        v / 64 % 0x40) * 64 + v % 0x40 = v := by omega
    rw [if_neg h3, List.cons_append, List.cons_append, List.cons_append, List.singleton_append,
      scan_lead (start_four (by omega) (by omega)),
      scan_more (by split <;> omega) (by split <;> omega) (by omega),
      scan_more (by omega) (by omega) (by omega),
      scan_last (by omega) (by omega) (by omega), hvalue, hc]

theorem scan_encode (cs : List Char) : scan none (encode cs) = cs.map some := by
  induction cs with
  | nil => rfl
  | cons c cs ih => rw [encode_cons, scan_utf8EncodeChar, ih, List.map_cons]

/-- The lenient reading of a text's octets is the text. -/
theorem decodeLossy_encode (cs : List Char) : decodeLossy (encode cs) = cs := by
  rw [decodeLossy, scan_encode, List.map_map]
  exact List.map_id cs

/-- The strict reading of a text's octets is the text. -/
theorem decode?_encode (cs : List Char) : decode? (encode cs) = some cs := by
  rw [decode?, scan_encode]
  induction cs with
  | nil => rfl
  | cons c cs ih => simp [ih]

end FacetFilter.Text.Utf8
