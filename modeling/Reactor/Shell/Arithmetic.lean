import Reactor.Shell.Script

namespace Reactor.Shell.Arithmetic

def modulus : Nat := Nat.pow 2 64

def wrap (n : Int) : Int := Int.bmod n modulus

def largest : Int := Nat.pow 2 63 - 1

def smallest : Int := -(Nat.pow 2 63)

inductive Token
  | number (n : Int)
  | name (s : String)
  | symbol (s : String)
  deriving DecidableEq, Repr

def isSpace (c : Char) : Bool := c == ' ' || ('\t' ≤ c && c ≤ '\x0d')

def digitValue (c : Char) : Nat :=
  if c.isDigit then c.toNat - '0'.toNat
  else if c.isLower then c.toNat - 'a'.toNat + 10
  else if c.isUpper then c.toNat - 'A'.toNat + 10
  else 36

def digitsIn (base : Nat) (cs : Octets) : Octets := cs.takeWhile (digitValue · < base)

def valueIn (base : Nat) (digits : Octets) : Nat :=
  digits.foldl (fun n c ↦ n * base + digitValue c) 0

/-- The number in front of a text, octal after a zero and hexadecimal after `0x`, and what follows
it. -/
def leadingNumber (cs : Octets) : Nat × Octets :=
  match cs with
  | '0' :: x :: rest =>
    let hexadecimal := digitsIn 16 rest
    if (x == 'x' || x == 'X') && !hexadecimal.isEmpty then
      (valueIn 16 hexadecimal, rest.drop hexadecimal.length)
    else
      let octal := digitsIn 8 (x :: rest)
      (valueIn 8 octal, (x :: rest).drop octal.length)
  | _ =>
    let decimal := digitsIn 10 cs
    (valueIn 10 decimal, cs.drop decimal.length)

def numberOf? (cs : Octets) : Option Int :=
  let cs := cs.dropWhile isSpace
  let (isNegative, digits) := match cs with
    | '-' :: rest => (true, rest)
    | '+' :: rest => (false, rest)
    | _ => (false, cs)
  if cs.isEmpty then some 0
  else if !(digits.headD ' ').isDigit then none
  else
    let (n, rest) := leadingNumber digits
    let value : Int := if isNegative then -n else n
    if rest.all isSpace && smallest ≤ value && value ≤ largest then some value else none

def symbols : List String :=
  ["<<=", ">>=", "<<", ">>", "<=", ">=", "==", "!=", "&&", "||", "+=", "-=", "*=", "/=", "%=", "&=",
    "^=", "|=", "<", ">", "=", "!", "&", "|", "+", "-", "*", "/", "%", "^", "~", "(", ")", "?", ":"]

def tokens : Nat → Octets → Option (List Token)
  | 0, cs => if cs.isEmpty then some [] else none
  | n + 1, cs =>
    match cs with
    | [] => some []
    | c :: rest =>
      if isSpace c then tokens n rest
      else if c.isDigit then
        let (value, rest) := leadingNumber cs
        (tokens n rest).map (.number (min value largest) :: ·)
      else if isNameStart c then
        let name := String.ofList (cs.takeWhile isNameChar)
        (tokens n (cs.dropWhile isNameChar)).map (.name name :: ·)
      else
        match symbols.find? fun s ↦ s.toList.isPrefixOf cs with
        | some s => (tokens n (cs.drop s.length)).map (.symbol s :: ·)
        | none => none

def ofBool (b : Bool) : Int := if b then 1 else 0

def apply (operator : String) (a b : Int) : Option Int :=
  match operator with
  | "*" => some (wrap (a * b))
  | "/" => if b = 0 then none else some (wrap (a.tdiv b))
  | "%" => if b = 0 then none else some (wrap (a.tmod b))
  | "+" => some (wrap (a + b))
  | "-" => some (wrap (a - b))
  | "<<" => some (wrap (a * Nat.pow 2 (b % 64).toNat))
  | ">>" => some (a.fdiv (Nat.pow 2 (b % 64).toNat))
  | "<" => some (ofBool (a < b))
  | "<=" => some (ofBool (a ≤ b))
  | ">" => some (ofBool (a > b))
  | ">=" => some (ofBool (a ≥ b))
  | "==" => some (ofBool (a = b))
  | "!=" => some (ofBool (a ≠ b))
  | "&" => some (BitVec.ofInt 64 a &&& BitVec.ofInt 64 b).toInt
  | "^" => some (BitVec.ofInt 64 a ^^^ BitVec.ofInt 64 b).toInt
  | "|" => some (BitVec.ofInt 64 a ||| BitVec.ofInt 64 b).toInt
  | _ => none

/-- The operators between two operands, the weakest first. -/
def operators : List (List String) :=
  [["|"], ["^"], ["&"], ["==", "!="], ["<", "<=", ">", ">="], ["<<", ">>"], ["+", "-"],
    ["*", "/", "%"]]

structure Reading where
  tokens : List Token
  assigned : List (String × Int)

abbrev Evaluation := StateT Reading Option

variable (value? : String → Option Octets)

def peek : Evaluation (Option Token) := return (← get).tokens.head?

def skip : Evaluation Unit := modify fun r ↦ { r with tokens := r.tokens.tail }

def symbol? (s : String) : Evaluation Bool := do
  if (← peek) = some (.symbol s) then
    skip
    return true
  else return false

def valueOf (name : String) : Evaluation Int := do
  match (← get).assigned.lookup name with
  | some n => return n
  | none => (numberOf? ((value? name).getD []) : Option Int)

def assign (counts : Bool) (name : String) (n : Int) : Evaluation Unit := do
  if counts then modify fun r ↦ { r with assigned := (name, n) :: r.assigned }

/-- Applies an operator; where a value does not count, what goes wrong does not either. -/
def applied (counts : Bool) (operator : String) (a b : Int) : Evaluation Int :=
  if counts then (apply operator a b : Option Int) else return (apply operator a b).getD 0

mutual

def primary : Nat → Bool → Evaluation Int
  | 0, _ => failure
  | n + 1, counts => do
    let token ← peek
    skip
    match token with
    | some (.number k) => return k
    | some (.name s) => valueOf value? s
    | some (.symbol "(") =>
      let k ← assignment n counts
      if ← symbol? ")" then return k else failure
    | some (.symbol "+") => primary n counts
    | some (.symbol "-") => return wrap (-(← primary n counts))
    | some (.symbol "!") => return ofBool ((← primary n counts) = 0)
    | some (.symbol "~") => return -(← primary n counts) - 1
    | _ => failure

def term : Nat → Bool → List (List String) → Evaluation Int
  | 0, _, _ => failure
  | n + 1, counts, levels => do
    match levels with
    | [] => primary n counts
    | level :: tighter => more n counts level tighter (← term n counts tighter)

def more : Nat → Bool → List String → List (List String) → Int → Evaluation Int
  | 0, _, _, _, _ => failure
  | n + 1, counts, level, tighter, a => do
    match ← peek with
    | some (.symbol s) =>
      if level.contains s then
        skip
        let b ← term n counts tighter
        more n counts level tighter (← applied counts s a b)
      else return a
    | _ => return a

def conjunction : Nat → Bool → Evaluation Int
  | 0, _ => failure
  | n + 1, counts => do
    let a ← term n counts operators
    if ← symbol? "&&" then
      let b ← conjunction n (counts && a ≠ 0)
      return ofBool (a ≠ 0 && b ≠ 0)
    else return a

def disjunction : Nat → Bool → Evaluation Int
  | 0, _ => failure
  | n + 1, counts => do
    let a ← conjunction n counts
    if ← symbol? "||" then
      let b ← disjunction n (counts && a = 0)
      return ofBool (a ≠ 0 || b ≠ 0)
    else return a

def conditional : Nat → Bool → Evaluation Int
  | 0, _ => failure
  | n + 1, counts => do
    let a ← disjunction n counts
    if ← symbol? "?" then
      let b ← assignment n (counts && a ≠ 0)
      if !(← symbol? ":") then failure
      let c ← conditional n (counts && a = 0)
      return if a ≠ 0 then b else c
    else return a

def assignment : Nat → Bool → Evaluation Int
  | 0, _ => failure
  | n + 1, counts => do
    match (← get).tokens with
    | .name s :: .symbol "=" :: rest =>
      modify ({ · with tokens := rest })
      let k ← assignment n counts
      assign counts s k
      return k
    | .name s :: .symbol operator :: rest =>
      let base := String.ofList (operator.toList.dropLast)
      if operator.toList.getLast? = some '=' ∧ (apply base 1 1).isSome
          ∧ !(["<=", ">=", "==", "!="].contains operator) then
        modify ({ · with tokens := rest })
        let k ← assignment n counts
        let k ← applied counts base (← valueOf value? s) k
        assign counts s k
        return k
      else conditional n counts
    | _ => conditional n counts

end

/-- The value of an expression on whole numbers of 64 bits, which wrap, and the values that it
assigns, in order. What a condition does not choose assigns none. -/
def evaluate? (cs : Octets) : Option (Int × List (String × Int)) := do
  let ts ← tokens (cs.length + 1) cs
  let (k, r) ← (assignment value? (20 * (ts.length + 1)) true).run ⟨ts, []⟩
  if r.tokens.isEmpty then some (k, r.assigned.reverse) else none

end Reactor.Shell.Arithmetic
