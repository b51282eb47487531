import Reactor.Decimal.Binary

namespace Reactor.Decimal

/-- The number `digits * 10 ^ exponent`. -/
structure Short where
  digits : Nat
  exponent : Int
  deriving DecidableEq, Repr

namespace Binary

variable (b : Binary)

/-- The number and the bounds of the interval that rounds to it, as multiples of one fraction
`2 ^ (exponent - 2)`. Below a power of two the numbers lie twice as close. -/
def bounds : Nat × Nat × Nat :=
  let isPower := b.mantissa = Nat.pow 2 (precision - 1) ∧ b.exponent > minExponent
  (4 * b.mantissa - (if isPower then 1 else 2), 4 * b.mantissa, 4 * b.mantissa + 2)

def units (place : Int) : Nat × Nat :=
  let q := b.exponent - 2
  (Nat.pow 2 q.toNat * Nat.pow 10 (-place).toNat, Nat.pow 2 (-q).toNat * Nat.pow 10 place.toNat)

/-- The multiple of `10 ^ place` that reads back, if there is one: the nearer of two, the even one
of two at the same distance. -/
def onGrid? (place : Int) : Option Nat :=
  let (low, value, high) := b.bounds
  let (binary, decimal) := b.units place
  let isInside (n : Nat) : Bool :=
    if b.mantissa % 2 = 0 then low * binary ≤ n * decimal && n * decimal ≤ high * binary
    else low * binary < n * decimal && n * decimal < high * binary
  let below := value * binary / decimal
  let above := below + 1
  let distanceBelow := value * binary - below * decimal
  let distanceAbove := above * decimal - value * binary
  match isInside below && below ≠ 0, isInside above with
  | true, true =>
    if distanceBelow < distanceAbove then some below
    else if distanceAbove < distanceBelow then some above
    else some (below + below % 2)
  | true, false => some below
  | false, true => some above
  | false, false => none

def topPlace : Int :=
  ((b.mantissa.log2 : Int) + b.exponent) * 30103 / 100000 + 2

def stripZeros : Nat → Short → Short
  | 0, s => s
  | fuel + 1, s =>
    if s.digits % 10 = 0 ∧ s.digits ≠ 0 then stripZeros fuel ⟨s.digits / 10, s.exponent + 1⟩ else s

def shortestFrom : Nat → Int → Short
  | 0, place => ⟨0, place⟩
  | fuel + 1, place =>
    match b.onGrid? place with
    | some digits => stripZeros 20 ⟨digits, place⟩
    | none => shortestFrom fuel (place - 1)

def shortest : Short :=
  if b.mantissa = 0 then ⟨0, 0⟩ else b.shortestFrom 24 b.topPlace

end Binary

end Reactor.Decimal
