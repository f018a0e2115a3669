/-! Floating-point numbers of 64 bits, as a sign and a dyadic rational. Rounding is to the
nearest, a half goes to the even neighbour, and is done on exact quotients of naturals. -/

namespace FacetFilter.Decimal

/-- A number that is not negative: `mantissa · 2 ^ exponent`, or beyond all of them. A normal
mantissa has 53 bits; the least exponent is -1074. -/
inductive Magnitude where
  | finite (mantissa : Nat) (exponent : Int)
  | infinite
deriving DecidableEq, Repr

structure Binary64 where
  negative : Bool
  magnitude : Magnitude
deriving DecidableEq, Repr

/-- The least mantissa of 53 bits. -/
def leastNormal : Nat := 0x10000000000000

/-- The natural nearest to a quotient; a half goes to the even one. -/
def roundDiv (num den : Nat) : Nat :=
  let q := num / den
  let twice := 2 * (num % den)
  if den < twice ∨ (twice = den ∧ q % 2 = 1) then q + 1 else q

/-- Numerator and denominator of `num / den · base ^ k`. -/
def scale (num den base : Nat) : Int → Nat × Nat
  | .ofNat k => (num * base.pow k, den)
  | .negSucc k => (num, den * base.pow (k + 1))

/-- The greatest power of `base` that a positive quotient reaches, from an estimate that is
right or one too high. -/
def settlePower (num den base : Nat) (estimate : Int) : Int :=
  let (n, d) := scale num den base (-estimate)
  if d ≤ n then estimate else estimate - 1

namespace Magnitude

def zero : Magnitude := .finite 0 (-1074)

/-- The number nearest to a quotient. -/
def ofRatio (num den : Nat) : Magnitude :=
  if num = 0 then zero else
    let power := settlePower num den 2 ((num.log2 : Int) - den.log2)
    let exponent := max (power - 52) (-1074)
    let (n, d) := scale num den 2 (-exponent)
    let m := roundDiv n d
    let (m, exponent) := if m = 2 * leastNormal then (leastNormal, exponent + 1) else (m, exponent)
    if 971 < exponent then infinite else .finite m exponent

/-- Numerator and denominator of a finite number. -/
def ratio? : Magnitude → Option (Nat × Nat)
  | .finite m e => some (scale m 1 2 e)
  | .infinite => none

def isZero : Magnitude → Bool
  | .finite m _ => m == 0
  | .infinite => false

/-- The rounded product of two numbers. -/
def mul (a b : Magnitude) : Magnitude :=
  match a.ratio?, b.ratio? with
  | some (n, d), some (n', d') => ofRatio (n * n') (d * d')
  | _, _ => infinite

/-- The rounded quotient by a positive finite number. -/
def div (a b : Magnitude) : Magnitude :=
  match a.ratio?, b.ratio? with
  | some (n, d), some (n', d') => ofRatio (n * d') (d * n')
  | _, _ => infinite

/-- The number nearest to `digits · 10 ^ power`. Powers at which the result is settled are not
computed. -/
def ofDecimal (digits : Nat) (power : Int) : Magnitude :=
  if digits = 0 then zero
  else
    let top : Int := (Nat.toDigits 10 digits).length + power
    if 310 < top then infinite
    else if top < -330 then zero
    else
      let (n, d) := scale digits 1 10 power
      ofRatio n d

end Magnitude

example : Magnitude.ofRatio 1 1 = .finite leastNormal (-52) := by decide
example : Magnitude.ofRatio (2 * leastNormal + 1) 1 = .finite leastNormal 1 := by decide
example : Magnitude.ofRatio 1 (Nat.pow 2 1074) = .finite 1 (-1074) := by decide +kernel
example : Magnitude.ofRatio (Nat.pow 2 1024) 1 = .infinite := by decide +kernel

end FacetFilter.Decimal
