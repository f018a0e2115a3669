import FacetFilter.Proofs.Text.Digits
import FacetFilter.Proofs.Text.Pieces
import FacetFilter.Proofs.Text.Reading
import FacetFilter.Url.Ipv4
import Mathlib.Algebra.Group.Nat.Defs

/-! IPv4 addresses read back from their text: four octets in decimal, none of them longer than
it has to be, so that none is read as octal. -/

namespace FacetFilter.Url.Ipv4

/-- What numbers fill up to is within its room. -/
theorem fill_lt {room : Nat} {ns : List Nat} {a : Nat} (h : fill room ns = some a) :
    a < 256 ^ room := by
  fun_induction fill room ns generalizing a with
  | case1 => cases h
  | case2 room last _ hlast =>
    cases h
    exact hlast
  | case3 => cases h
  | case4 room n more _ hn ih =>
    obtain ⟨b, hb, rfl⟩ := Option.map_eq_some_iff.mp h
    calc n * Nat.pow 256 room + b < n * 256 ^ room + 256 ^ room := Nat.add_lt_add_left (ih hb) _
      _ = (n + 1) * 256 ^ room := (Nat.succ_mul _ _).symm
      _ ≤ 256 * 256 ^ room := Nat.mul_le_mul_right _ hn
      _ = 256 ^ (room + 1) := by rw [Nat.pow_succ, Nat.mul_comm]
  | case5 => cases h
  | case6 => cases h

theorem address?_lt {name : List Char} {a : Nat} (h : address? name = some a) : a < 256 ^ 4 := by
  obtain ⟨ns, -, hfill⟩ := Option.bind_eq_some_iff.mp h
  exact fill_lt hfill

/-- The octets of an address. -/
def octets (a : Nat) : List Nat := [3, 2, 1, 0].map fun i => a / 256 ^ i % 256

theorem lt_of_mem_octets {a n : Nat} (h : n ∈ octets a) : n < 256 := by
  obtain ⟨i, -, rfl⟩ := List.mem_map.mp h
  exact Nat.mod_lt _ (by decide)

theorem fill_octets {a : Nat} (h : a < 256 ^ 4) : fill 4 (octets a) = some a := by
  have hlt : ∀ i, a / 256 ^ i % 256 < 256 := fun i => Nat.mod_lt _ (by decide)
  simp only [octets, List.map_cons, List.map_nil, fill, hlt, if_true, Nat.pow_eq, Option.map_some]
  congr 1
  omega

/-- An octet is read back from its decimal digits. -/
theorem number?_toDigits {n : Nat} (h : n < 256) : number? (Nat.toDigits 10 n) = some n := by
  have all : ∀ n ∈ List.range 256, number? (Nat.toDigits 10 n) = some n := by decide +kernel
  exact all n (List.mem_range.mpr h)

theorem text_eq (a : Nat) : text a = Text.join '.' ((octets a).map (Nat.toDigits 10)) := by
  simp [text, octets]

/-- Nothing but digits and dots. -/
theorem mem_text {a : Nat} {c : Char} (h : c ∈ text a) : c.isDigit = true ∨ c = '.' := by
  rw [text_eq] at h
  rcases Text.mem_join h with rfl | ⟨part, hpart, hc⟩
  · exact .inr rfl
  · obtain ⟨n, -, rfl⟩ := List.mem_map.mp hpart
    exact .inl (Text.isDigit_of_mem_toDigits hc)

theorem pieces_text (a : Nat) :
    Text.pieces '.' (text a) = (octets a).map (Nat.toDigits 10) := by
  rw [text_eq]
  refine List.splitOn_intercalate '.' (fun part hpart hm => ?_) (by simp [octets])
  obtain ⟨n, -, rfl⟩ := List.mem_map.mp hpart
  exact absurd (Text.isDigit_of_mem_toDigits hm) (by decide)

theorem labels_text (a : Nat) : labels (text a) = (octets a).map (Nat.toDigits 10) := by
  have hlast : ((octets a).map (Nat.toDigits 10)).getLast? ≠ some [] := by
    simp [octets, Nat.toDigits_ne_nil]
  rw [labels, pieces_text]
  exact if_neg hlast

/-- The text of an address is meant as one. -/
theorem isMeant_text (a : Nat) : isMeant (text a) = true := by
  have hlast : (labels (text a)).getLast? = some (Nat.toDigits 10 (a / 256 ^ 0 % 256)) := by
    rw [labels_text]
    rfl
  rw [isMeant, hlast]
  dsimp only
  rw [number?_toDigits (Nat.mod_lt _ (by decide)), Option.isSome_some, Bool.or_true]

theorem text_ne_nil (a : Nat) : text a ≠ [] := fun h => by
  have hmeant := isMeant_text a
  rw [h] at hmeant
  exact absurd hmeant (by decide)

theorem address?_text {a : Nat} (h : a < 256 ^ 4) : address? (text a) = some a := by
  have hnumbers : (labels (text a)).mapM number? = some (octets a) := by
    rw [labels_text]
    exact Text.mapM_map_eq_some fun n hn => number?_toDigits (lt_of_mem_octets hn)
  rw [address?, hnumbers]
  exact fill_octets h

end FacetFilter.Url.Ipv4
