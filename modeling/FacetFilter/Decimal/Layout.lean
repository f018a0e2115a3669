import FacetFilter.Decimal.Shortest

/-! Decimal text of floating-point numbers: shortest digits, laid out positionally or with an
exponent. A whole number keeps `.0`. -/

namespace FacetFilter.Decimal

/-- Where positional text ends: the exponents of the first digit that are written out. -/
structure Layout where
  leastExponent : Option Int
  greatestExponent : Option Int

/-- All digits are written out, whatever the exponent. -/
def Layout.positional : Layout := ⟨none, none⟩

/-- Digits are written out from the fifth place after the point to the sixteenth before it. -/
def Layout.compact : Layout := ⟨some (-5), some 15⟩

def Layout.isPositional (l : Layout) (exponent : Int) : Bool :=
  l.leastExponent.all (· ≤ exponent) && l.greatestExponent.all (exponent ≤ ·)

/-- Digits with the point after the first `places` of them, which may lie outside. -/
def pointed (digits : List Char) (places : Int) : List Char :=
  if places ≤ 0 then '0' :: '.' :: List.replicate (-places).toNat '0' ++ digits
  else
    let n := places.toNat
    if digits.length ≤ n then
      digits ++ List.replicate (n - digits.length) '0' ++ ['.', '0']
    else digits.take n ++ '.' :: digits.drop n

/-- An exponent with its sign, which it has even when it is positive. -/
def exponentText (exponent : Int) : List Char :=
  (if exponent < 0 then '-' else '+') :: Nat.toDigits 10 exponent.natAbs

example : exponentText (-6) = ['-', '6'] := by decide +kernel
example : exponentText 16 = ['+', '1', '6'] := by decide +kernel

def Digits.text (l : Layout) (d : Digits) : List Char :=
  let digits := Nat.toDigits 10 d.digits
  let exponent : Int := digits.length - 1 + d.power
  if l.isPositional exponent then pointed digits (exponent + 1)
  else
    digits.take 1 ++ (if digits.length = 1 then [] else '.' :: digits.drop 1) ++
      'e' :: exponentText exponent

def Magnitude.text (l : Layout) : Magnitude → List Char
  | .infinite => "inf".toList
  | .finite m e => if m = 0 then "0.0".toList else (shortest m e).text l

def Binary64.text (l : Layout) (x : Binary64) : String :=
  String.ofList ((if x.negative then ['-'] else []) ++ x.magnitude.text l)

end FacetFilter.Decimal
