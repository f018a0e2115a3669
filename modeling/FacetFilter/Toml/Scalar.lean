import FacetFilter.Text.Pieces
import FacetFilter.Toml.Item

/-! TOML numbers, dates and words. Each is recognized as a whole word, since no value may be
followed directly by a character that could belong to it. -/

namespace FacetFilter.Toml

/-- Digits with single underscores between them, which do not count. -/
def digitRun? (isDigit : Char → Bool) (cs : List Char) : Option (List Char) :=
  let parts := Text.pieces '_' cs
  if parts.all fun p => !p.isEmpty && p.all isDigit then some parts.flatten else none

/-- Whether there is a minus sign, and the text after the sign. -/
def sign (cs : List Char) : Bool × List Char :=
  match cs with
  | '-' :: rest => (true, rest)
  | '+' :: rest => (false, rest)
  | cs => (false, cs)

/-- The digits of a decimal integer without sign; it has no leading zero. -/
def decimalDigits? (cs : List Char) : Option (List Char) := do
  let digits ← digitRun? Char.isDigit cs
  if digits.length = 1 ∨ digits.head? ≠ some '0' then some digits else none

def isHexDigit (c : Char) : Bool :=
  c.isDigit || (0x61 ≤ c.toLower.toNat && c.toLower.toNat ≤ 0x66)

def hexDigitValue (c : Char) : Nat :=
  if c.isDigit then c.toNat - 0x30 else c.toLower.toNat - 0x57

/-- Integers lie below this bound, and at the lowest on its negative. -/
def integerBound : Nat := 0x8000000000000000

/-- The value of digits in a base. -/
def based? (base : Nat) (isDigit : Char → Bool) (cs : List Char) : Option Int := do
  let digits ← digitRun? isDigit cs
  let n := digits.foldl (fun n c => base * n + hexDigitValue c) 0
  if n < integerBound then some n else none

/-- An integer of 64 bits, in decimal with an optional sign or after `0x`, `0o` or `0b`. -/
def integer? (cs : List Char) : Option Int :=
  match cs with
  | '0' :: 'x' :: rest => based? 16 isHexDigit rest
  | '0' :: 'o' :: rest => based? 8 (fun c => '0' ≤ c && c ≤ '7') rest
  | '0' :: 'b' :: rest => based? 2 (fun c => c == '0' || c == '1') rest
  | cs => do
    let (negative, rest) := sign cs
    let n := Nat.ofDigitChars 10 (← decimalDigits? rest) 0
    if negative then if n ≤ integerBound then some (-(n : Int)) else none
    else if n < integerBound then some n else none

/-- The text before the first `e` or `E`, and the text after it. -/
def cutExponent (cs : List Char) : List Char × Option (List Char) :=
  match cs.span fun c => c != 'e' && c != 'E' with
  | (mantissa, []) => (mantissa, none)
  | (mantissa, _ :: exponent) => (mantissa, some exponent)

/-- The value of an exponent with an optional sign. -/
def exponent? (cs : List Char) : Option Int := do
  let (negative, rest) := sign cs
  let n := Nat.ofDigitChars 10 (← digitRun? Char.isDigit rest) 0
  return if negative then -(n : Int) else n

/-- A decimal number with a fraction, an exponent or both. One above all numbers is refused, one
below them is not. -/
def decimalFloat? (cs : List Char) : Option Float := do
  let (negative, rest) := sign cs
  let (mantissa, exponentText?) := cutExponent rest
  let (whole, fractionText?) := Text.cut '.' mantissa
  if exponentText?.isNone ∧ fractionText?.isNone then failure
  let whole ← decimalDigits? whole
  let fraction ← (fractionText?.mapM (digitRun? Char.isDigit)).map (·.getD [])
  let exponent ← (exponentText?.mapM exponent?).map (·.getD 0)
  let digits := Nat.ofDigitChars 10 (whole ++ fraction) 0
  let magnitude := Decimal.Magnitude.ofDecimal digits (exponent - fraction.length)
  if magnitude = .infinite ∧ !negative then failure
  return .number ⟨negative, magnitude⟩

def float? (cs : List Char) : Option Float :=
  let (negative, rest) := sign cs
  if rest = "inf".toList then some (.number ⟨negative, .infinite⟩)
  else if rest = "nan".toList then some .nan
  else decimalFloat? cs

/-- A number of exactly two digits. -/
def two? : List Char → Option Nat
  | [a, b] =>
    if a.isDigit && b.isDigit then some (Nat.ofDigitChars 10 [a, b] 0) else none
  | _ => none

def daysIn (year month : Nat) : Nat :=
  if month = 2 then
    if year % 4 = 0 ∧ (year % 100 ≠ 0 ∨ year % 400 = 0) then 29 else 28
  else if [4, 6, 9, 11].contains month then 30 else 31

/-- A day of the calendar, as `1979-05-27`. -/
def isDate (cs : List Char) : Bool :=
  match Text.pieces '-' cs with
  | [y, m, d] =>
    match two? m, two? d with
    | some month, some day =>
      y.length = 4 && y.all Char.isDigit && 1 ≤ month && month ≤ 12 && 1 ≤ day &&
        day ≤ daysIn (Nat.ofDigitChars 10 y 0) month
    | _, _ => false
  | _ => false

/-- A time of the day, as `07:32:00`, with any number of digits after a point. -/
def isTime (cs : List Char) : Bool :=
  let (main, fraction?) := Text.cut '.' cs
  (fraction?.all fun f => !f.isEmpty && f.all Char.isDigit) &&
    match Text.pieces ':' main with
    | [h, m, s] =>
      (two? h).any (· ≤ 23) && (two? m).any (· ≤ 59) && (two? s).any (· ≤ 60)
    | _ => false

/-- The distance from universal time, as `-07:00`. -/
def isOffset : List Char → Bool
  | ['Z'] | ['z'] => true
  | sign :: rest =>
    (sign == '+' || sign == '-') &&
      match Text.pieces ':' rest with
      | [h, m] => (two? h).any (· ≤ 23) && (two? m).any (· ≤ 59)
      | _ => false
  | [] => false

/-- A time with an offset or without one. -/
def isTimeOfInstant (cs : List Char) : Bool :=
  let (time, offset) := cs.span fun c => c.isDigit || c == ':' || c == '.'
  isTime time && (offset.isEmpty || isOffset offset)

/-- A date, a time, or both with `T` between them. -/
def isDatetime (cs : List Char) : Bool :=
  match cs.span fun c => c != 'T' && c != 't' with
  | (date, _ :: time) => isDate date && isTimeOfInstant time
  | (cs, []) => isDate cs || isTime cs

/-- The value of a word. -/
def scalar? (cs : List Char) : Option Item :=
  if cs = "true".toList then some (.boolean true)
  else if cs = "false".toList then some (.boolean false)
  else if isDatetime cs then some .datetime
  else match float? cs, integer? cs with
    | some x, _ => some (.float x)
    | none, some n => some (.integer n)
    | none, none => none

end FacetFilter.Toml
