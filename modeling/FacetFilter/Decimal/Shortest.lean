import FacetFilter.Decimal.Binary64

/-! The fewest decimal digits that read back as a given number. A decimal reads back when it
lies in the interval of reals that round to the number; of two decimals of the least length
that do, the nearer one is taken. -/

namespace FacetFilter.Decimal

/-- The number `digits · 10 ^ power`. -/
structure Digits where
  digits : Nat
  power : Int
deriving DecidableEq, Repr

/-- The interval that rounds to `mantissa · 2 ^ exponent`, in quarters of `2 ^ exponent`: its
lower end, the number and its upper end. Below a power of two the numbers lie closer. -/
def interval (mantissa : Nat) (exponent : Int) : Nat × Nat × Nat :=
  let closer := mantissa = leastNormal ∧ -1074 < exponent
  (if closer then 4 * mantissa - 1 else 4 * mantissa - 2, 4 * mantissa, 4 * mantissa + 2)

/-- The better of the two decimals with steps of `10 ^ power` around a number, if one reads
back. -/
def onGrid? (mantissa : Nat) (exponent power : Int) : Option Digits :=
  let (low, middle, high) := interval mantissa exponent
  let (two, twoDen) := scale 1 1 2 (exponent - 2)
  let (ten, tenDen) := scale 1 1 10 power
  -- both sides of every comparison are multiplied by the two denominators
  let quarter := two * tenDen
  let step := ten * twoDen
  let below := middle * quarter / step
  let readsBack := fun (d : Nat) =>
    if mantissa % 2 = 0 then low * quarter ≤ d * step ∧ d * step ≤ high * quarter
    else low * quarter < d * step ∧ d * step < high * quarter
  let overBelow := middle * quarter - below * step
  let underAbove := (below + 1) * step - middle * quarter
  if readsBack below ∧ (¬readsBack (below + 1) ∨ overBelow < underAbove ∨
      (overBelow = underAbove ∧ below % 2 = 0)) then some ⟨below, power⟩
  else if readsBack (below + 1) then some ⟨below + 1, power⟩
  else none

/-- The digits of a number without the zeros at their end. -/
def Digits.strip (fuel : Nat) (d : Digits) : Digits :=
  match fuel with
  | 0 => d
  | fuel + 1 =>
    if d.digits ≠ 0 ∧ d.digits % 10 = 0 then strip fuel ⟨d.digits / 10, d.power + 1⟩ else d

/-- The shortest digits of a positive number; seventeen always suffice. -/
def shortest (mantissa : Nat) (exponent : Int) : Digits :=
  let (n, d) := scale mantissa 1 2 exponent
  let estimate : Int := (Nat.toDigits 10 n).length - (Nat.toDigits 10 d).length
  let top := settlePower n d 10 estimate
  let found := (List.range 17).findSome? fun (i : Nat) => onGrid? mantissa exponent (top - i)
  (found.getD ⟨mantissa, 0⟩).strip 20

end FacetFilter.Decimal
