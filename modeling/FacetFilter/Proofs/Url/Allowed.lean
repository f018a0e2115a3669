import FacetFilter.Proofs.Text.FormEncoded
import FacetFilter.Url.Allowed

/-! The characters that the parts of a written URL are made of. Escaping leaves only what a
part keeps, and no part that stands before the query keeps a character that would end it. -/

namespace FacetFilter

/-- Classes of ASCII characters are compared value by value. -/
theorem of_ascii {p q : Char → Bool} (hp : ∀ c, p c = true → c.toNat < 0x80)
    (h : ∀ n ∈ List.range 0x80, p (Char.ofNat n) = true → q (Char.ofNat n) = true) {c : Char}
    (hc : p c = true) : q c = true := by
  have hvalue := h c.toNat (List.mem_range.mpr (hp c hc))
  rw [Char.ofNat_toNat] at hvalue
  exact hvalue hc

namespace Url

open Text

variable {c : Char} {cs : List Char}

/-- The characters of a written host. None of them ends the authority, or the userinfo in it. -/
def inHost (c : Char) : Bool := inRootless c && !" /\\?#@".toList.contains c

/-- The characters of a written authority. -/
def inAuthority (c : Char) : Bool := inHost c || c == '@'

/-- The characters that may stand in a URL before its query. -/
def beforeQuery (c : Char) : Bool := inRootless c && !"?#".toList.contains c

theorem beforeQuery_iff :
    beforeQuery c = true ↔ inRootless c = true ∧ c ≠ '?' ∧ c ≠ '#' := by
  simp [beforeQuery]

theorem toNat_lt_of_inRootless (h : inRootless c = true) : c.toNat < 0x80 := by
  simp only [inRootless, Bool.and_eq_true, decide_eq_true_eq] at h
  omega

theorem toNat_lt_of_isAlphanum (h : c.isAlphanum = true) : c.toNat < 0x80 :=
  Text.FormEncoded.toNat_lt_of_keeps (by simp [Text.FormEncoded.keeps, h])

theorem of_inRootless {p q : Char → Bool} (hp : ∀ c, p c = true → inRootless c = true)
    (h : ∀ n ∈ List.range 0x80, p (Char.ofNat n) = true → q (Char.ofNat n) = true)
    (hc : p c = true) : q c = true :=
  of_ascii (fun c hc => toNat_lt_of_inRootless (hp c hc)) h hc

theorem inRootless_of_inFragment (h : inFragment c = true) : inRootless c = true :=
  (Bool.and_eq_true_iff.mp h).1

theorem inRootless_of_inPath (h : inPath c = true) : inRootless c = true :=
  inRootless_of_inFragment (Bool.and_eq_true_iff.mp h).1

theorem inPath_of_inUserinfo (h : inUserinfo c = true) : inPath c = true :=
  (Bool.and_eq_true_iff.mp h).1

theorem inRootless_of_inUserinfo (h : inUserinfo c = true) : inRootless c = true :=
  inRootless_of_inPath (inPath_of_inUserinfo h)

theorem inRootless_of_inHost (h : inHost c = true) : inRootless c = true :=
  (Bool.and_eq_true_iff.mp h).1

theorem inRootless_of_inQuery {special : Bool} (h : inQuery special c = true) :
    inRootless c = true := by
  simp only [inQuery, Bool.and_eq_true] at h
  exact h.1.1

/-- What any kind of URL keeps in its query, general ones keep. -/
theorem inQuery_false {special : Bool} (h : inQuery special c = true) :
    inQuery false c = true := by
  simp only [inQuery, Bool.and_eq_true] at h ⊢
  exact ⟨h.1, rfl⟩

theorem inHost_of_inUserinfo (h : inUserinfo c = true) : inHost c = true :=
  of_inRootless (fun _ => inRootless_of_inUserinfo) (by decide +kernel) h

theorem beforeQuery_of_inPath (h : inPath c = true) : beforeQuery c = true :=
  of_inRootless (fun _ => inRootless_of_inPath) (by decide +kernel) h

theorem inUserinfo_of_isAlphanum (h : c.isAlphanum = true) : inUserinfo c = true :=
  of_ascii (fun _ => toNat_lt_of_isAlphanum) (by decide +kernel) h

theorem toLower_toLower (c : Char) : c.toLower.toLower = c.toLower := by
  by_cases h : c.isUpper = true
  · have hlt : ∀ c, Char.isUpper c = true → c.toNat < 0x80 := fun c hc =>
      toNat_lt_of_isAlphanum (by
        show ((c.isUpper || c.isLower) || c.isDigit) = true
        rw [hc]; rfl)
    exact beq_iff_eq.mp (of_ascii (q := fun c => c.toLower.toLower == c.toLower) hlt
      (by decide +kernel) h)
  · have hself : c.toLower = c := dif_neg fun hrange => h (decide_eq_true hrange)
    rw [hself, hself]

/-- A part that keeps what escapes are made of keeps its own escaped text. -/
theorem keeps_of_mem_escape {keeps : Char → Bool} (hpercent : keeps '%' = true)
    (halphanum : ∀ c, c.isAlphanum = true → keeps c = true) (h : c ∈ Percent.escape keeps cs) :
    keeps c = true := by
  rcases Percent.mem_escape h with ⟨-, hkeeps⟩ | rfl | hc
  · exact hkeeps
  · exact hpercent
  · exact halphanum c hc

theorem inUserinfo_of_mem_escape (h : c ∈ Percent.escape inUserinfo cs) :
    inUserinfo c = true :=
  keeps_of_mem_escape (by decide) (fun _ => inUserinfo_of_isAlphanum) h

theorem inPath_of_mem_escape (h : c ∈ Percent.escape inPath cs) : inPath c = true :=
  keeps_of_mem_escape (by decide) (fun _ hc => inPath_of_inUserinfo (inUserinfo_of_isAlphanum hc)) h

theorem inQuery_of_isAlphanum {special : Bool} (h : c.isAlphanum = true) :
    inQuery special c = true :=
  inQuery_of_special (of_ascii (q := inQuery true) (fun _ => toNat_lt_of_isAlphanum)
    (by decide +kernel) h) special

theorem inQuery_of_mem_escape {special : Bool} (h : c ∈ Percent.escape (inQuery special) cs) :
    inQuery special c = true :=
  keeps_of_mem_escape (by cases special <;> decide) (fun _ => inQuery_of_isAlphanum) h

theorem inFragment_of_isAlphanum (h : c.isAlphanum = true) : inFragment c = true :=
  of_ascii (fun _ => toNat_lt_of_isAlphanum) (by decide +kernel) h

theorem inFragment_of_mem_escape (h : c ∈ Percent.escape inFragment cs) :
    inFragment c = true :=
  keeps_of_mem_escape (by decide) (fun _ => inFragment_of_isAlphanum) h

theorem inRootless_of_inAuthority (h : inAuthority c = true) : inRootless c = true := by
  rcases Bool.or_eq_true_iff.mp h with h | h
  · exact inRootless_of_inHost h
  · rw [beq_iff_eq.mp h]
    decide

theorem beforeQuery_of_inAuthority (h : inAuthority c = true) : beforeQuery c = true :=
  of_inRootless (fun _ => inRootless_of_inAuthority) (by decide +kernel) h

theorem inAuthority_of_inHost (h : inHost c = true) : inAuthority c = true := by
  simp [inAuthority, h]

/-- Printable text has no breaks. -/
theorem withoutBreaks_of_inRootless (h : ∀ c ∈ cs, inRootless c = true) :
    withoutBreaks cs = cs := by
  refine List.filter_eq_self.mpr fun c hc => ?_
  exact of_inRootless (q := fun c => !isBreak c) (fun _ => id) (by decide +kernel) (h c hc)

end Url

end FacetFilter
