import Reactor.Decimal.Shortest
import Reactor.Yaml.Scalar

namespace Reactor.Yaml

inductive Number
  | integer (n : Int)
  | float (isNegative : Bool) (magnitude : Decimal.Binary)
  | infinite (isNegative : Bool)
  | notANumber
  deriving DecidableEq, Repr

namespace Number

/-- Two numbers of one sort are the same key if they are equal; zero has one value. -/
def same : Number → Number → Bool
  | integer a, integer b => a == b
  | float s a, float t b => a == b && (s == t || a.mantissa == 0)
  | infinite s, infinite t => s == t
  | notANumber, notANumber => true
  | _, _ => false

/-- Digits after a point, trailing zeros and exponents as a shortest decimal is written: positional
from `1e-5` up to below `1e16`, else with an exponent. -/
def shortText (s : Decimal.Short) : List Char :=
  let digits := Nat.toDigits 10 s.digits
  let point := (digits.length : Int) + s.exponent
  if s.exponent ≥ 0 && point ≤ 16 then
    digits ++ List.replicate s.exponent.toNat '0' ++ ['.', '0']
  else if 0 < point && point ≤ 16 then
    digits.take point.toNat ++ '.' :: digits.drop point.toNat
  else if -5 < point && point ≤ 0 then
    ['0', '.'] ++ List.replicate (-point).toNat '0' ++ digits
  else
    let fraction := digits.drop 1
    digits.take 1 ++ (if fraction.isEmpty then [] else '.' :: fraction) ++ ['e']
      ++ (toString (point - 1)).toList

def text : Number → String
  | integer n => toString n
  | float isNegative magnitude =>
    String.ofList ((if isNegative then ['-'] else []) ++ shortText magnitude.shortest)
  | infinite isNegative => if isNegative then "-.inf" else ".inf"
  | notANumber => ".nan"

end Number

def digitOf? (radix : Nat) (c : Char) : Option Nat := (hexValue? c).filter (· < radix)

def readDigits? (radix : Nat) (cs : List Char) : Option Nat :=
  if cs.isEmpty then none
  else cs.foldlM (fun n c ↦ (digitOf? radix c).map (radix * n + ·)) 0

def splitSign : List Char → Bool × List Char
  | '-' :: cs => (true, cs)
  | '+' :: cs => (false, cs)
  | cs => (false, cs)

def isSign (c : Char) : Bool := c == '-' || c == '+'

/-- Digits after a leading zero are a text and no number. -/
def isZeroPadded (cs : List Char) : Bool :=
  let digits := (splitSign cs).2
  digits.length > 1 && digits.head? == some '0' && digits.all Char.isDigit

/-- Digits of a radix other than ten follow a zero and a letter. -/
def readMagnitude? (cs : List Char) : Option Nat :=
  match cs with
  | '0' :: 'x' :: ds => readDigits? 16 ds
  | '0' :: 'o' :: ds => readDigits? 8 ds
  | '0' :: 'b' :: ds => readDigits? 2 ds
  | ds => readDigits? 10 ds

inductive IntegerReading
  | none
  | number (n : Int)
  | outOfRange
  deriving DecidableEq, Repr

/-- Integers fit into 64 bits, with or without a sign. One that fits into 128 bits only is refused,
and a longer one is no integer. -/
def readInteger (cs : List Char) : IntegerReading :=
  let (isNegative, magnitude) := splitSign cs
  if isZeroPadded cs then .none
  else match readMagnitude? magnitude with
    | Option.none => .none
    | some n =>
      if isNegative then
        if n ≤ Nat.pow 2 63 then .number (-(n : Int))
        else if n ≤ Nat.pow 2 127 then .outOfRange
        else .none
      else if n < Nat.pow 2 64 then .number n
      else if n < Nat.pow 2 128 then .outOfRange
      else .none

def readExponent? : List Char → Option Int
  | [] => some 0
  | e :: cs =>
    if e = 'e' ∨ e = 'E' then
      let (isNegative, digits) := splitSign cs
      (readDigits? 10 digits).map fun n ↦ if isNegative then -(n : Int) else n
    else none

def readDecimal? (cs : List Char) : Option (Nat × Int) := do
  let whole := cs.takeWhile Char.isDigit
  let rest := cs.dropWhile Char.isDigit
  let (fraction, rest) := match rest with
    | '.' :: more => (more.takeWhile Char.isDigit, more.dropWhile Char.isDigit)
    | _ => ([], rest)
  let digits ← readDigits? 10 (whole ++ fraction)
  let exponent ← readExponent? rest
  return (digits, exponent - fraction.length)

/-- A number too large for a float is none. -/
def readFloat? (cs : List Char) : Option Number :=
  let (isNegative, magnitude) := splitSign cs
  if magnitude.head?.any isSign then none
  else match String.ofList magnitude with
    | ".inf" | ".Inf" | ".INF" => some (.infinite isNegative)
    | ".nan" | ".NaN" | ".NAN" => if magnitude = cs then some .notANumber else none
    | _ => do
      let (digits, exponent) ← readDecimal? magnitude
      return .float isNegative (← Decimal.Binary.ofDecimal? digits exponent)

end Reactor.Yaml
