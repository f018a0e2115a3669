/-! Percent escapes: an octet written as `%` and two hexadecimal digits. -/

namespace FacetFilter.Text.Percent

/-- The upper-case hexadecimal digit of a value below sixteen. -/
def digit (n : Nat) : Char :=
  if n < 10 then Char.ofNat (0x30 + n) else Char.ofNat (0x37 + n)

/-- The value of a hexadecimal digit, in either case. -/
def digitValue? (n : Nat) : Option Nat :=
  if 0x30 ≤ n ∧ n ≤ 0x39 then some (n - 0x30)
  else if 0x41 ≤ n ∧ n ≤ 0x46 then some (n - 0x37)
  else if 0x61 ≤ n ∧ n ≤ 0x66 then some (n - 0x57)
  else none

def escapeOctet (b : UInt8) : List Char := ['%', digit (b.toNat / 16), digit (b.toNat % 16)]

/-- The escaped form of a character: one escape for each octet of its UTF-8 form. -/
def escapeChar (c : Char) : List Char := (String.utf8EncodeChar c).flatMap escapeOctet

/-- A text in which the characters that `keeps` refuses are escaped. -/
def escape (keeps : Char → Bool) (cs : List Char) : List Char :=
  cs.flatMap fun c => if keeps c then [c] else escapeChar c

/-- Octets with their escapes resolved; a `%` that begins no escape stands for itself. -/
def unescape : List UInt8 → List UInt8
  | b :: h :: l :: rest =>
    if b = 0x25 then
      match digitValue? h.toNat, digitValue? l.toNat with
      | some x, some y => UInt8.ofNat (16 * x + y) :: unescape rest
      | _, _ => b :: unescape (h :: l :: rest)
    else b :: unescape (h :: l :: rest)
  | bs => bs

theorem digitValue?_digit {n : Nat} (h : n < 16) : digitValue? (digit n).toNat = some n := by
  have all : ∀ m ∈ List.range 16, digitValue? (digit m).toNat = some m := by decide
  exact all n (List.mem_range.mpr h)

/-- Text that `keeps` accepts throughout is its own escaped form. -/
theorem escape_eq_self {keeps : Char → Bool} {cs : List Char} (h : ∀ c ∈ cs, keeps c = true) :
    escape keeps cs = cs := by
  induction cs with
  | nil => rfl
  | cons c rest ih =>
    rw [List.forall_mem_cons] at h
    simp [escape, List.flatMap_cons, h.1]
    exact ih h.2

end FacetFilter.Text.Percent
