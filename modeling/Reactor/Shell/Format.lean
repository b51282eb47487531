import Reactor.Decimal.Binary
import Reactor.Shell.Arithmetic

namespace Reactor.Shell

open Arithmetic (digitsIn valueIn isSpace leadingNumber)

def octet (n : Nat) : Char := Char.ofNat (n % 256)

def escapes : List (Char × Nat) :=
  [('a', 7), ('b', 8), ('f', 12), ('n', 10), ('r', 13), ('t', 9), ('v', 11), ('\\', 92), ('"', 34)]

/-- The octet of the escape after a backslash, and what follows. A backslash that starts none stands
for itself. -/
def escape (cs : Octets) : Char × Octets :=
  let octal := (cs.take 3).takeWhile fun c ↦ '0' ≤ c && c ≤ '7'
  if octal.isEmpty then
    match cs with
    | c :: rest =>
      match escapes.lookup c with
      | some n => (octet n, rest)
      | none => ('\\', cs)
    | [] => ('\\', [])
  else (octet (valueIn 8 octal), cs.drop octal.length)

/-- A text with its escapes read, and whether it was cut off by a `\c`. An octal number may have a
zero in front of its three digits. -/
def unescape : Nat → Octets → Octets × Bool
  | n + 1, '\\' :: cs =>
    match cs with
    | 'c' :: _ => ([], true)
    | _ =>
      let cs := match cs with
        | '0' :: c :: rest => if '0' ≤ c && c ≤ '7' then c :: rest else cs
        | _ => cs
      let (c, rest) := escape cs
      let (text, isCut) := unescape n rest
      (c :: text, isCut)
  | n + 1, c :: cs =>
    let (text, isCut) := unescape n cs
    (c :: text, isCut)
  | _, _ => ([], false)

def unescaped (cs : Octets) : Octets × Bool := unescape cs.length cs

structure Directive where
  flags : Octets
  width : Nat
  isLeft : Bool
  precision : Option Nat

namespace Directive

variable (d : Directive)

def pad (text : Octets) : Octets :=
  let blanks := List.replicate (d.width - text.length) ' '
  if d.isLeft then text ++ blanks else blanks ++ text

def padText (text : Octets) : Octets :=
  d.pad (match d.precision with
    | some n => text.take n
    | none => text)

/-- Fills a number up to the width; zeros come between its sign and its digits. -/
def padNumber (sign digits : Octets) (mayFill : Bool) : Octets :=
  if mayFill && d.flags.contains '0' && !d.isLeft then
    sign ++ List.replicate (d.width - sign.length - digits.length) '0' ++ digits
  else d.pad (sign ++ digits)

def signOf (isNegative : Bool) : Octets :=
  if isNegative then ['-'] else if d.flags.contains '+' then ['+']
  else if d.flags.contains ' ' then [' '] else []

def digits (base n : Nat) : Octets :=
  let text := if n = 0 && d.precision == some 0 then [] else Nat.toDigits base n
  List.replicate (d.precision.getD 1 - text.length) '0' ++ text

def signed (n : Int) : Octets :=
  d.padNumber (d.signOf (n < 0)) (d.digits 10 n.natAbs) d.precision.isNone

def unsigned (conversion : Char) (n : Nat) : Octets :=
  let hexadecimal := d.digits 16 n
  let mark (s : String) : Octets := if d.flags.contains '#' && n ≠ 0 then s.toList else []
  match conversion with
  | 'x' => d.padNumber (mark "0x") hexadecimal d.precision.isNone
  | 'X' => d.padNumber (mark "0X") (hexadecimal.map Char.toUpper) d.precision.isNone
  | 'o' =>
    let text := d.digits 8 n
    d.padNumber [] (if d.flags.contains '#' && text.head? ≠ some '0' then '0' :: text else text)
      d.precision.isNone
  | _ => d.padNumber [] (d.digits 10 n) d.precision.isNone

end Directive

def fixedDigits (num den places : Nat) (keepsPoint : Bool) : Octets :=
  let n := Decimal.Binary.roundDiv (num * Nat.pow 10 places) den
  let text := Nat.toDigits 10 n
  let text := List.replicate (places + 1 - text.length) '0' ++ text
  let whole := text.take (text.length - places)
  if places = 0 then whole ++ (if keepsPoint then ['.'] else [])
  else whole ++ '.' :: text.drop (text.length - places)

def decimalExponent (num den : Nat) : Int :=
  if num ≥ den then (Nat.toDigits 10 (num / den)).length - 1
  else
    let guess := (Nat.toDigits 10 (den / num)).length
    if num * Nat.pow 10 (guess - 1) ≥ den then -(guess - 1) else -guess

def exponentText (letter : Char) (e : Int) : Octets :=
  let text := Nat.toDigits 10 e.natAbs
  letter :: (if e < 0 then '-' else '+') :: (if text.length < 2 then '0' :: text else text)

def scientific (num den places : Nat) (keepsPoint : Bool) : Octets × Int :=
  if num = 0 then (fixedDigits 0 1 places keepsPoint, 0)
  else
    let shifted (e : Int) :=
      if e ≥ 0 then fixedDigits num (den * Nat.pow 10 e.toNat) places keepsPoint
      else fixedDigits (num * Nat.pow 10 (-e).toNat) den places keepsPoint
    let e := decimalExponent num den
    let text := shifted e
    if (text.takeWhile (· != '.')).length > 1 then (shifted (e + 1), e + 1) else (text, e)

def dropZeros (text : Octets) : Octets :=
  if text.contains '.' then
    let short := (text.reverse.dropWhile (· == '0')).reverse
    if short.getLast? = some '.' then short.dropLast else short
  else text

namespace Directive

variable (d : Directive)

def fractional (conversion : Char) (num den : Nat) : Octets :=
  let places := d.precision.getD 6
  let marked := d.flags.contains '#'
  let letter := if conversion.isUpper then 'E' else 'e'
  match conversion.toLower with
  | 'f' => fixedDigits num den places marked
  | 'e' =>
    let (text, e) := scientific num den places marked
    text ++ exponentText letter e
  | _ =>
    let count := max places 1
    let (text, e) := scientific num den (count - 1) marked
    let tidy (text : Octets) := if marked then text else dropZeros text
    if -4 ≤ e ∧ e < count then tidy (fixedDigits num den ((count : Int) - 1 - e).toNat marked)
    else tidy text ++ exponentText letter e

/-- A decimal number in front of a text: its sign, its nearest binary fraction and what follows. -/
def leadingDecimal (cs : Octets) : Bool × Nat × Nat × Octets :=
  let (isNegative, body) := match cs with
    | '-' :: rest => (true, rest)
    | '+' :: rest => (false, rest)
    | _ => (false, cs)
  let whole := digitsIn 10 body
  let (part, rest) := match body.drop whole.length with
    | '.' :: rest =>
      let part := digitsIn 10 rest
      if whole.isEmpty && part.isEmpty then ([], body.drop whole.length)
      else (part, rest.drop part.length)
    | rest => ([], rest)
  if whole.isEmpty && part.isEmpty then (false, 0, 1, cs)
  else
    let (exponent, rest) : Int × Octets := match rest with
      | e :: more =>
        let (isBelow, ds) := match more with
          | '-' :: ds => (true, ds)
          | '+' :: ds => (false, ds)
          | ds => (false, ds)
        let digits := digitsIn 10 ds
        if (e == 'e' || e == 'E') && !digits.isEmpty then
          (if isBelow then -(valueIn 10 digits : Int) else valueIn 10 digits, ds.drop digits.length)
        else (0, rest)
      | [] => (0, [])
    match Decimal.Binary.ofDecimal? (valueIn 10 (whole ++ part)) (exponent - part.length) with
    | some b =>
      if b.exponent ≥ 0 then (isNegative, b.mantissa * Nat.pow 2 b.exponent.toNat, 1, rest)
      else (isNegative, b.mantissa, Nat.pow 2 (-b.exponent).toNat, rest)
    | none => (isNegative, 0, 1, rest)

def real (conversion : Char) (isNegative : Bool) (num den : Nat) : Octets :=
  d.padNumber (d.signOf isNegative) (d.fractional conversion num den) true

end Directive

structure Printing where
  output : Octets
  arguments : List Octets
  isUsed : Bool
  status : Nat
  isDone : Bool

namespace Printing

abbrev Step := StateM Printing

def put (cs : Octets) : Step Unit := modify fun p ↦ { p with output := p.output ++ cs }

def fail (status : Nat) : Step Unit := modify fun p ↦ { p with status := status }

def stop : Step Unit := modify fun p ↦ { p with isDone := true }

def argument? : Step (Option Octets) := do
  let p ← get
  set { p with arguments := p.arguments.tail, isUsed := p.isUsed || !p.arguments.isEmpty }
  return p.arguments.head?

def check (rest : Octets) (isInRange : Bool) : Step Unit := do
  if !rest.isEmpty || !isInRange then fail 1

/-- The next argument as a whole number between two bounds; a quote stands for the octet after
it. -/
def number (low high : Int) : Step Int := do
  match ← argument? with
  | none => return 0
  | some (q :: cs) =>
    if q = '"' ∨ q = '\'' then return ((cs.head?.map Char.toNat).getD 0 : Nat)
    else
      let trimmed := (q :: cs).dropWhile isSpace
      let (isNegative, body) := match trimmed with
        | '-' :: rest => (true, rest)
        | '+' :: rest => (false, rest)
        | _ => (false, trimmed)
      if !(body.headD ' ').isDigit then
        fail 1
        return 0
      else
        let (n, rest) := leadingNumber body
        let value : Int := if isNegative then -n else n
        check rest (low ≤ value ∧ value ≤ high)
        return max low (min high value)
  | some [] => return 0

def largestUnsigned : Int := Nat.pow 2 64 - 1

def size? (cs : Octets) : Step (Option Int × Octets) := do
  match cs with
  | '*' :: rest => return (some (← number (-2147483648) 2147483647), rest)
  | _ =>
    let ds := digitsIn 10 cs
    return (if ds.isEmpty then none else some (valueIn 10 ds), cs.drop ds.length)

def convert (d : Directive) (conversion : Char) : Step Bool := do
  match conversion with
  | 's' =>
    put (d.padText ((← argument?).getD []))
    return true
  | 'b' =>
    let (text, isCut) := unescaped ((← argument?).getD [])
    put (d.padText text)
    if isCut then stop
    return true
  | 'c' =>
    put (d.pad [((← argument?).getD []).headD '\x00'])
    return true
  | 'd' | 'i' =>
    put (d.signed (← number Arithmetic.smallest Arithmetic.largest))
    return true
  | 'o' | 'u' | 'x' | 'X' =>
    let n ← number (-largestUnsigned) largestUnsigned
    put (d.unsigned conversion (n % Arithmetic.modulus).toNat)
    return true
  | 'e' | 'E' | 'f' | 'F' | 'g' | 'G' =>
    let text := ((← argument?).getD []).dropWhile isSpace
    let (isNegative, num, den, rest) := Directive.leadingDecimal text
    check rest true
    put (d.real conversion isNegative num den)
    return true
  | _ => return false

def pass : Nat → Octets → Step Unit
  | n + 1, c :: cs => do
    if (← get).isDone then return
    match c, cs with
    | '\\', _ =>
      let (c, rest) := escape cs
      put [c]
      pass n rest
    | '%', '%' :: rest =>
      put ['%']
      pass n rest
    | '%', _ =>
      let flags := cs.takeWhile fun c ↦ "#-+ 0".toList.contains c
      let (width, rest) ← size? (cs.drop flags.length)
      let (precision, rest) ← match rest with
        | '.' :: rest =>
          let (p, rest) ← size? rest
          pure (some (p.getD 0), rest)
        | _ => pure (none, rest)
      let d : Directive :=
        { flags := flags
          width := (width.getD 0).natAbs
          isLeft := flags.contains '-' || width.any (· < 0)
          precision := precision.bind fun p ↦ if p < 0 then none else some p.toNat }
      if rest.isEmpty then
        fail 2
        stop
      else if ← convert d (rest.headD ' ') then pass n rest.tail
      else
        fail 2
        stop
    | _, _ =>
      put [c]
      pass n cs
  | _, _ => return

/-- A format is used again while arguments are left. -/
def passes (format : Octets) : Nat → Step Unit
  | 0 => return
  | n + 1 => do
    modify ({ · with isUsed := false })
    pass format.length format
    let p ← get
    if p.isUsed && !p.arguments.isEmpty && !p.isDone then passes format n

end Printing

def formatted (format : Octets) (arguments : List Octets) : Octets × Nat :=
  let (_, p) := (Printing.passes format (arguments.length + 1)).run ⟨[], arguments, false, 0, false⟩
  (p.output, p.status)

end Reactor.Shell
