import FacetFilter.Facet.AsNumber
import FacetFilter.Proofs.Text.Digits

/-! Canonical forms of AS numbers. The canonical text of a number is read back as that number,
so a canonical form is its own canonical form, and two canonical values that name one number
are one value. -/

namespace FacetFilter.AsNumber

theorem toList_text (n : AsNumber) : n.text.toList = 'A' :: 'S' :: Nat.toDigits 10 n.toNat := by
  simp [text, Nat.repr_eq_ofList_toDigits]

/-- The canonical form of a number names it. -/
theorem ofText?_text (n : AsNumber) : ofText? n.text = some n := by
  have hdigits : (Nat.toDigits 10 n.toNat).all Char.isDigit = true :=
    List.all_eq_true.mpr fun c hc => Text.isDigit_of_mem_toDigits hc
  have hne : Nat.toDigits 10 n.toNat ≠ [] := Nat.toDigits_ne_nil
  have hsize : n.toNat < UInt32.size := n.toNat_lt
  rw [ofText?, toList_text, withoutLetters, if_pos (by decide)]
  simp [ofDigits?, hdigits, hne, hsize]

theorem text_injective {m n : AsNumber} (h : m.text = n.text) : m = n := by
  have := ofText?_text m
  rwa [h, ofText?_text, Option.some.injEq, eq_comm] at this

/-- A value that names a number and is canonical is the text of the number. -/
theorem eq_text_of_canonical {v : String} {n : AsNumber} (hv : canonical v = v)
    (hn : ofText? v = some n) : v = n.text := by
  rw [canonical, hn] at hv
  exact hv.symm

/-- A canonical form names the number that the value names. -/
theorem ofText?_canonical (v : String) : ofText? (canonical v) = ofText? v := by
  cases h : ofText? v with
  | none => simp [canonical, h]
  | some n => simp [canonical, h, ofText?_text]

theorem canonical_canonical (v : String) : canonical (canonical v) = canonical v := by
  cases h : ofText? v with
  | none => simp [canonical, h]
  | some n => simp [canonical, h, ofText?_text]

end FacetFilter.AsNumber
