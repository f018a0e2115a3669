import FacetFilter.Proofs.Text.FormEncoded
import Mathlib.Tactic.SplitIfs

/-! Where reading starts anew. An octet that is no hexadecimal digit ends every escape that was cut
off before it, and an ASCII octet ends every scalar value that was begun. So what stands before a
comma and what stands behind it are read as if each of them were alone, however the comma is written
and whatever was left unfinished before it. -/

namespace FacetFilter.Text

namespace Percent

section
variable {b : UInt8} (h : digitValue? b.toNat = none)
include h

/-- Nothing has an octet that is no digit as the first digit of its escape. -/
theorem unescape_cons_of_next (first : UInt8) (rest : List UInt8) :
    unescape (first :: b :: rest) = first :: unescape (b :: rest) := by
  by_cases hfirst : first = 0x25
  · cases rest with
    | nil => rfl
    | cons next rest => rw [unescape, if_pos hfirst, h]
  · exact unescape_cons_of_ne hfirst _

/-- Nor as the second digit. -/
theorem unescape_cons_of_second (first second : UInt8) (rest : List UInt8) :
    unescape (first :: second :: b :: rest) = first :: second :: unescape (b :: rest) := by
  rw [← unescape_cons_of_next h second rest]
  by_cases hfirst : first = 0x25
  · rw [unescape, if_pos hfirst, h]
    cases digitValue? second.toNat <;> rfl
  · exact unescape_cons_of_ne hfirst _

/-- No escape reaches across an octet that is no digit. -/
theorem unescape_append_cons (bs rest : List UInt8) :
    unescape (bs ++ b :: rest) = unescape bs ++ unescape (b :: rest) := by
  fun_induction unescape bs with
  | case1 high low bs x y hhigh hlow ih =>
    show unescape (0x25 :: high :: low :: (bs ++ b :: rest)) = _
    rw [unescape, if_pos rfl, hhigh, hlow, ih]
    rfl
  | case2 high low bs hnone ih =>
    show unescape (0x25 :: high :: low :: (bs ++ b :: rest)) = _
    rw [unescape, if_pos rfl]
    split
    · next x y hhigh hlow => exact absurd hlow (hnone x y hhigh)
    · exact congrArg (0x25 :: ·) ih
  | case3 first high low bs hfirst ih =>
    show unescape (first :: (high :: low :: bs ++ b :: rest)) = _
    rw [unescape_cons_of_ne hfirst, ih]
    rfl
  | case4 bs hshort =>
    -- Up to two octets begin no escape of their own, but might have begun one with `b`.
    rcases bs with _ | ⟨first, _ | ⟨second, _ | ⟨third, bs⟩⟩⟩
    · rfl
    · exact unescape_cons_of_next h first rest
    · exact unescape_cons_of_second h first second rest
    · exact absurd rfl (hshort first second third bs)

end

end Percent

namespace Utf8

/-- Nothing but octets past ASCII continues what is pending. -/
def Pending.PastAscii (p : Pending) : Prop := 0x80 ≤ p.low

theorem pastAscii_start (b : UInt8) : ∀ p ∈ (start b).2, p.PastAscii := by
  intro p hp
  rw [Option.mem_def] at hp
  simp only [start] at hp
  split_ifs at hp <;> cases hp <;> simp [Pending.PastAscii]

theorem pastAscii_step (state : Option Pending) (b : UInt8) :
    ∀ p ∈ (step state b).2, p.PastAscii := by
  intro p hp
  cases state with
  | none => exact pastAscii_start b p hp
  | some q =>
    simp only [step] at hp
    split_ifs at hp
    · cases hp
    · cases hp
      exact Nat.le_refl _
    · exact pastAscii_start b p hp

section
variable {b : UInt8} (h : b.toNat < 0x80)
include h

theorem start_of_ascii : start b = ([some (Char.ofNat b.toNat)], none) := by
  rw [start, if_pos h]

/-- An ASCII octet is read as itself and ends what was begun before it. -/
theorem scan_append_cons {state : Option Pending} (hstate : ∀ p ∈ state, p.PastAscii)
    (bs rest : List UInt8) :
    scan state (bs ++ b :: rest) =
      scan state bs ++ some (Char.ofNat b.toNat) :: scan none rest := by
  induction bs generalizing state with
  | nil =>
    rw [List.nil_append, scan_cons]
    cases state with
    | none =>
      rw [step, start_of_ascii h]
      rfl
    | some p =>
      have hlow : 0x80 ≤ p.low := hstate p rfl
      rw [step, if_neg (by omega), start_of_ascii h]
      rfl
  | cons first bs ih =>
    rw [List.cons_append, scan_cons, scan_cons, ih (pastAscii_step state first), List.append_assoc]

theorem decodeLossy_append_cons (bs rest : List UInt8) :
    decodeLossy (bs ++ b :: rest) = decodeLossy bs ++ Char.ofNat b.toNat :: decodeLossy rest := by
  have hidle : ∀ p ∈ (none : Option Pending), p.PastAscii := fun p hp => by cases hp
  rw [decodeLossy, scan_append_cons h hidle, List.map_append]
  rfl

end

end Utf8

namespace FormEncoded

/-- The texts that stand for a comma. -/
def commas : List (List Char) := [",".toList, "%2C".toList, "%2c".toList]

variable {comma : List Char} (h : comma ∈ commas)
include h

theorem unescape_octets_comma (bs rest : List UInt8) :
    Percent.unescape (bs ++ (octets comma ++ rest)) =
      Percent.unescape bs ++ 0x2C :: Percent.unescape rest := by
  have hliteral : Percent.digitValue? (0x2C : UInt8).toNat = none := rfl
  have hpercent : Percent.digitValue? (0x25 : UInt8).toNat = none := rfl
  simp only [commas, List.mem_cons, List.not_mem_nil, or_false] at h
  rcases h with rfl | rfl | rfl
  · show Percent.unescape (bs ++ 0x2C :: rest) = _
    rw [Percent.unescape_append_cons hliteral, Percent.unescape_cons_of_ne (by decide)]
  · show Percent.unescape (bs ++ 0x25 :: 0x32 :: 0x43 :: rest) = _
    rw [Percent.unescape_append_cons hpercent]
    rfl
  · show Percent.unescape (bs ++ 0x25 :: 0x32 :: 0x63 :: rest) = _
    rw [Percent.unescape_append_cons hpercent]
    rfl

/-- A comma is read as a comma, and the texts on both sides of it as they are read alone. -/
theorem decode_append_comma (cs ds : List Char) :
    decode (cs ++ (comma ++ ds)) = decode cs ++ ',' :: decode ds := by
  rw [decode, octets_append, octets_append, unescape_octets_comma h,
    Utf8.decodeLossy_append_cons (by decide)]
  rfl

end FormEncoded

end FacetFilter.Text
