import FacetFilter.Decimal.Layout
import FacetFilter.Json.Node

/-! The values of JSON numbers. Integers within 64 bits are exact; everything else is a
floating-point number, for which digits past 64 bits are dropped and one multiplication or
division by a power of ten is made. -/

namespace FacetFilter.Json

open FacetFilter.Decimal

inductive Number where
  /-- Not negative and below 2 ^ 64. -/
  | unsigned (n : Nat)
  /-- The negative of a number up to 2 ^ 63. -/
  | negative (n : Nat)
  | float (x : Binary64)
deriving DecidableEq, Repr

namespace Numeral

def digitValue (c : Char) : Nat := c.toNat - 0x30

/-- Digits kept in a significand below 2 ^ 64, and those left from the first that does not
fit. -/
def significand (kept : Nat) : List Char → Nat × List Char
  | [] => (kept, [])
  | c :: rest =>
    let next := kept * 10 + digitValue c
    if next < UInt64.size then significand next rest else (kept, c :: rest)

/-- A significand times a power of ten. Beyond the greatest power the significand is first
brought down; a result out of range has no value. -/
def scaled (x : Magnitude) (power : Int) : Option Magnitude :=
  let tenTo := fun (k : Nat) => Magnitude.ofRatio (Nat.pow 10 k) 1
  if 308 < power then if x.isZero then some x else none
  else if 0 ≤ power then
    match x.mul (tenTo power.toNat) with
    | .infinite => none
    | y => some y
  else
    let k := (-power).toNat
    if k ≤ 308 then some (x.div (tenTo k))
    else if k ≤ 616 then some ((x.div (tenTo 308)).div (tenTo (k - 308)))
    else some .zero

/-- The floating-point value; digits of the whole part that are not kept count as powers of
ten, those of the fraction not at all. -/
def magnitude? (n : Numeral) : Option Magnitude :=
  let (whole, dropped) := significand 0 n.whole
  let (all, droppedFraction) := significand whole n.fraction
  let power : Int := dropped.length - (n.fraction.length - droppedFraction.length : Nat)
  let x := Magnitude.ofRatio all 1
  match n.exponent with
  | none => scaled x power
  | some (isNegative, digits) =>
    let e := Nat.ofDigitChars 10 digits 0
    if 0x80000000 ≤ e then if all = 0 ∨ isNegative then some .zero else none
    else scaled x (if isNegative then power - e else power + e)

/-- The value of a number; one beyond the range has none. -/
def value? (n : Numeral) : Option Number :=
  let float := n.magnitude?.map fun m => Number.float ⟨n.negative, m⟩
  if n.isWhole then
    match significand 0 n.whole with
    | (v, []) =>
      if !n.negative then some (.unsigned v)
      else if 0 < v ∧ v ≤ 0x8000000000000000 then some (.negative v)
      else some (.float ⟨true, .ofRatio v 1⟩)
    | _ => float
  else float

end Numeral

end FacetFilter.Json
