/-! Autonomous system numbers as filter values. Counts name them by bare number, filters by
`AS` and the number; every spelling of a number has one canonical form. -/

namespace FacetFilter

/-- The number of an autonomous system. -/
abbrev AsNumber := UInt32

namespace AsNumber

/-- The canonical form of a number. -/
def text (n : AsNumber) : String := "AS" ++ n.toNat.repr

/-- A value without the letters `AS`, in either case, when it begins with them. -/
def withoutLetters : List Char → List Char
  | a :: s :: rest => if a.toLower = 'a' ∧ s.toLower = 's' then rest else a :: s :: rest
  | cs => cs

/-- The number of one or more digits, leading zeros allowed, that does not pass the largest
number. -/
def ofDigits? (digits : List Char) : Option AsNumber :=
  if digits ≠ [] ∧ digits.all Char.isDigit then
    let n := Nat.ofDigitChars 10 digits 0
    if h : n < UInt32.size then some (UInt32.ofNatLT n h) else none
  else none

/-- The number that a value names, with or without `AS` before its digits. -/
def ofText? (value : String) : Option AsNumber := ofDigits? (withoutLetters value.toList)

/-- The canonical form of a value: that of the number it names, or else the value itself. -/
def canonical (value : String) : String :=
  match ofText? value with
  | some n => n.text
  | none => value

example : canonical "as00042" = "AS42" := by decide
example : canonical "4294967295" = "AS4294967295" := by decide
example : canonical "AS4294967296" = "AS4294967296" := by decide
example : canonical "ASAS7" = "ASAS7" := by decide
example : canonical "é1" = "é1" := by decide

end AsNumber

end FacetFilter
