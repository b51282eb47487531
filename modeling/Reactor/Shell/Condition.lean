import Reactor.Shell.Arithmetic
import Reactor.Shell.Mark

namespace Reactor.Shell

namespace Condition

inductive Operator
  | unary (letter : Char)
  | binary (name : String)
  | negation
  | conjunction
  | disjunction
  | opening
  | closing
  deriving DecidableEq

def binaryNames : List String :=
  ["=", "!=", "<", ">", "-eq", "-ne", "-gt", "-lt", "-ge", "-le", "-nt", "-ot", "-ef"]

def operator? (cs : Octets) : Option Operator :=
  let s := String.ofList cs
  match cs with
  | ['!'] => some .negation
  | ['('] => some .opening
  | [')'] => some .closing
  | ['-', 'a'] => some .conjunction
  | ['-', 'o'] => some .disjunction
  | _ =>
    if binaryNames.contains s then some (.binary s)
    else
      match cs with
      | ['-', c] => if "rwxefdcbpSLhuksgtOGzn".toList.contains c then some (.unary c) else none
      | _ => none

def isBinary (cs : Octets) : Bool :=
  match operator? cs with
  | some (.binary _) => true
  | _ => false

/-- The operator at the front of the words; a unary one may be an operand instead. -/
def lex : List Octets → Option Operator
  | [] => none
  | w :: rest =>
    match operator? w, rest with
    | some (.unary _), [] => none
    | some (.unary c), [_] => some (.unary c)
    | some (.unary c), s :: t :: _ => if isBinary s && t != [')'] then none else some (.unary c)
    | some .opening, [] => none
    | o, _ => o

def number? (cs : Octets) : Option Int :=
  let cs := cs.dropWhile Arithmetic.isSpace
  let (isNegative, body) := match cs with
    | '-' :: rest => (true, rest)
    | '+' :: rest => (false, rest)
    | _ => (false, cs)
  let digits := Arithmetic.digitsIn 10 body
  let n : Int := Arithmetic.valueIn 10 digits
  if digits.isEmpty || !(body.drop digits.length).all Arithmetic.isSpace then none
  else if n > Arithmetic.largest then none
  else some (if isNegative then -n else n)

variable (d : Disk)

def isOf (cs : Octets) (p : DiskNode → Bool) : Bool :=
  match d.lookup (pathOf cs) with
  | .ok n => p n
  | .error _ => false

def unary (letter : Char) (cs : Octets) : Option Bool :=
  match letter with
  | 'z' => some cs.isEmpty
  | 'n' => some !cs.isEmpty
  | 't' => (number? cs).map fun _ ↦ false
  | 'e' | 'r' | 'w' | 'O' | 'G' => some (isOf d cs fun _ ↦ true)
  | 'f' => some (d.isFile (pathOf cs))
  | 'd' => some (d.isDirectory (pathOf cs))
  | 'L' | 'h' => some (d.kind? (pathOf cs) == some .link)
  | 'c' => some (isOf d cs fun
      | .device _ => true
      | _ => false)
  | 's' => some (isOf d cs fun
      | .file content _ => 0 < content.size
      | .device _ => false
      | _ => true)
  | 'x' => some (isOf d cs fun
      | .file _ x => x
      | .device _ => false
      | _ => true)
  | _ => some false

def isSame (a b : Octets) : Bool :=
  match d.resolve (pathOf a) true, d.resolve (pathOf b) true with
  | .ok p, .ok q => p == q
  | _, _ => false

def exists? (cs : Octets) : Bool := isOf d cs fun _ ↦ true

def binary (name : String) (a b : Octets) : Option Bool :=
  let text (cs : Octets) := String.ofList cs
  let numbers (f : Int → Int → Bool) : Option Bool := do return f (← number? a) (← number? b)
  match name with
  | "=" => some (a == b)
  | "!=" => some (a != b)
  | "<" => some (text a < text b)
  | ">" => some (text b < text a)
  | "-eq" => numbers (· == ·)
  | "-ne" => numbers (· != ·)
  | "-gt" => numbers (· > ·)
  | "-lt" => numbers (· < ·)
  | "-ge" => numbers (· ≥ ·)
  | "-le" => numbers (· ≤ ·)
  | "-ef" => some (isSame d a b)
  | "-nt" => some (exists? d a && !exists? d b)
  | _ => some (!exists? d a && exists? d b)

mutual

/-- The value of a condition at the front of the words, and its last word with those after it. -/
def disjunction : Nat → Option Operator → List Octets → Option (Bool × List Octets)
  | 0, _, _ => none
  | n + 1, o, ws => do
    let (a, ws) ← conjunction n o ws
    if lex ws.tail = some .disjunction then
      let (b, ws) ← disjunction n (lex ws.tail.tail) ws.tail.tail
      return (a || b, ws)
    else return (a, ws)

def conjunction : Nat → Option Operator → List Octets → Option (Bool × List Octets)
  | 0, _, _ => none
  | n + 1, o, ws => do
    let (a, ws) ← negation n o ws
    if lex ws.tail = some .conjunction then
      let (b, ws) ← conjunction n (lex ws.tail.tail) ws.tail.tail
      return (a && b, ws)
    else return (a, ws)

def negation : Nat → Option Operator → List Octets → Option (Bool × List Octets)
  | 0, _, _ => none
  | n + 1, o, ws => do
    if o = some .negation then
      let (a, ws) ← negation n (lex ws.tail) ws.tail
      return (!a, ws)
    else primary n o ws

def primary : Nat → Option Operator → List Octets → Option (Bool × List Octets)
  | 0, _, _ => none
  | n + 1, o, ws => do
    match o, ws with
    | _, [] => return (false, [])
    | some .opening, _ :: rest =>
      if lex rest = some .closing then return (false, rest)
      else
        let (a, rest) ← disjunction n (lex rest) rest
        if lex rest.tail = some .closing then return (a, rest.tail) else none
    | some (.unary c), _ :: rest =>
      match rest with
      | [] => none
      | w :: _ => return (← unary d c w, rest)
    | _, a :: rest =>
      match lex rest, rest with
      | some (.binary name), _ :: b :: more => return (← binary d name a b, b :: more)
      | some (.binary _), _ => none
      | _, _ => return (!a.isEmpty, ws)

end

def value? : Nat → List Octets → Option Bool
  | 0, _ => none
  | n + 1, ws =>
    let whole (o : Option Operator) : Option Bool := do
      let (a, rest) ← disjunction d (4 * ws.length + 8) o ws
      if rest.tail.isEmpty then some a else none
    match ws with
    | [] => some false
    | [_, o, _] | [_, o, _, _] =>
      if ws.length = 3 ∧ isBinary o then whole none
      else if ws.head? = some ['('] ∧ ws.getLast? = some [')'] then
        let inner := ws.tail.dropLast
        (do
          let (a, rest) ← disjunction d (4 * inner.length + 8) (lex inner) inner
          if rest.tail.isEmpty then some a else none)
      else if ws.head? = some ['!'] then (value? n ws.tail).map (!·)
      else whole (lex ws)
    | _ => whole (lex ws)

def status (ws : List Octets) : Nat :=
  match value? d (ws.length + 2) ws with
  | some true => 0
  | some false => 1
  | none => 2

end Condition

end Reactor.Shell
