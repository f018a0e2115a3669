import Mathlib.Data.List.Basic
import Mathlib.Data.List.Induction
import Mathlib.Data.Nat.Digits.Defs

/-! Numbers in decimal digits. What digits are worth is decided by their places, so zeros in front
are worth nothing; the digits that are written for a number have none, except for zero itself. -/

namespace FacetFilter.Text

/-- One or more decimal digits that are worth `n`, each one by its place. -/
structure DigitsOf (n : Nat) (ds : List Char) : Prop where
  ne_nil : ds ≠ []
  isDigit : ∀ d ∈ ds, d.isDigit = true
  worth : Nat.ofDigits 10 (ds.reverse.map fun d => d.toNat - '0'.toNat) = n

/-- Reading digits from the first on sums them up by their places. -/
theorem ofDigitChars_eq (ds : List Char) :
    Nat.ofDigitChars 10 ds 0 = Nat.ofDigits 10 (ds.reverse.map fun d => d.toNat - '0'.toNat) := by
  induction ds using List.reverseRecOn with
  | nil => rfl
  | append_singleton ds d ih =>
    rw [Nat.ofDigitChars_append, ih, Nat.ofDigitChars_cons, Nat.ofDigitChars_nil,
      List.reverse_append, List.reverse_singleton, List.singleton_append, List.map_cons,
      Nat.ofDigits_cons]
    exact Nat.add_comm _ _

theorem digitsOf_iff {n : Nat} {ds : List Char} :
    DigitsOf n ds ↔ ds ≠ [] ∧ (∀ d ∈ ds, d.isDigit = true) ∧ Nat.ofDigitChars 10 ds 0 = n := by
  rw [ofDigitChars_eq]
  exact ⟨fun h => ⟨h.ne_nil, h.isDigit, h.worth⟩, fun ⟨hne, hdigit, hworth⟩ =>
    ⟨hne, hdigit, hworth⟩⟩

theorem isDigit_of_mem_toDigits {n : Nat} {c : Char} (h : c ∈ Nat.toDigits 10 n) :
    c.isDigit = true :=
  Nat.isDigit_of_mem_toDigits (by decide) (by decide) h

theorem digitsOf_toDigits (n : Nat) : DigitsOf n (Nat.toDigits 10 n) :=
  digitsOf_iff.mpr ⟨Nat.toDigits_ne_nil, fun _ => isDigit_of_mem_toDigits,
    Nat.ofDigitChars_ten_toDigits⟩

/-- Zero alone is written with a zero in front. -/
theorem eq_zero_of_head?_toDigits {n : Nat} (h : (Nat.toDigits 10 n).head? = some '0') : n = 0 := by
  induction n using Nat.strongRecOn with
  | ind n ih =>
    by_cases hn : n < 10
    · have all : ∀ n < 10, (Nat.toDigits 10 n).head? = some '0' → n = 0 := by decide
      exact all n hn h
    · rw [Nat.toDigits_of_base_le (by decide) (by omega),
        List.head?_append_of_ne_nil _ Nat.toDigits_ne_nil] at h
      have := ih (n / 10) (by omega) h
      omega

end FacetFilter.Text
