/-! Hexadecimal digits, in either case, and the numbers and characters written with them. -/

namespace FacetFilter.Text

/-- The value of a hexadecimal digit. -/
def hexValue? (c : Char) : Option Nat :=
  let lower := c.toLower.toNat
  if c.isDigit then some (c.toNat - 0x30)
  else if 0x61 ≤ lower ∧ lower ≤ 0x66 then some (lower - 0x57)
  else none

/-- The number that digits make up. -/
def hexNumber? (digits : List Char) : Option Nat :=
  digits.foldlM (fun n c => (hexValue? c).map (16 * n + ·)) 0

/-- The character whose code point digits give. -/
def codePoint? (digits : List Char) : Option Char := do
  let n ← hexNumber? digits
  if n.isValidChar then some (Char.ofNat n) else none

end FacetFilter.Text
