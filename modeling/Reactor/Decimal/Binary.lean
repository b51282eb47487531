namespace Reactor.Decimal

/-- The number `mantissa * 2 ^ exponent`, with 53 binary digits and an exponent from -1074 to 971.
-/
structure Binary where
  mantissa : Nat
  exponent : Int
  deriving DecidableEq, Repr

namespace Binary

def precision : Nat := 53

def minExponent : Int := -1074

def maxExponent : Int := 971

def zero : Binary := ⟨0, minExponent⟩

/-- A quotient to the nearest number, a tie to the even one. -/
def roundDiv (num den : Nat) : Nat :=
  let q := num / den
  let twice := 2 * (num % den)
  if twice < den then q else if twice > den then q + 1 else q + q % 2

/-- The exponent at which a fraction has `precision` binary digits before the point, or one more
than that; not below the least exponent. -/
def scaleOf (num den : Nat) : Int :=
  max minExponent ((num.log2 : Int) - (den.log2 : Int) - precision)

def scaled (num den : Nat) (exponent : Int) : Nat × Nat :=
  if exponent ≥ 0 then (num, den * Nat.pow 2 exponent.toNat)
  else (num * Nat.pow 2 (-exponent).toNat, den)

def ofFraction? (num den : Nat) : Option Binary :=
  if num = 0 then some zero
  else
    let guess := scaleOf num den
    let (n, d) := scaled num den guess
    let exponent := if n / d ≥ Nat.pow 2 precision then guess + 1 else guess
    let (n, d) := scaled num den exponent
    let m := roundDiv n d
    let (m, exponent) := if m = Nat.pow 2 precision then (Nat.pow 2 (precision - 1), exponent + 1)
      else (m, exponent)
    if exponent > maxExponent then none
    else if m = 0 then some zero
    else some ⟨m, exponent⟩

/-- Rounds `digits * 10 ^ exponent`. Exponents that leave the range of all numbers are not
computed with. -/
def ofDecimal? (digits : Nat) (exponent : Int) : Option Binary :=
  if digits = 0 then some zero
  else
    let places := exponent + (Nat.toDigits 10 digits).length
    if places > 400 then none
    else if places < -400 then some zero
    else if exponent ≥ 0 then ofFraction? (digits * Nat.pow 10 exponent.toNat) 1
    else ofFraction? digits (Nat.pow 10 (-exponent).toNat)

end Binary

end Reactor.Decimal
