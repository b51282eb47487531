import Reactor.Shell.Regex
import Reactor.Shell.Utility.Option

namespace Reactor.Shell

namespace Expression

abbrev Value := Octets

def number? (v : Value) : Option Int :=
  let (isNegative, digits) := match v with
    | '-' :: rest => (true, rest)
    | _ => (false, v)
  (natural? digits).map fun n ↦ if isNegative then -(n : Int) else n

def isNull (v : Value) : Bool :=
  v.isEmpty || (number? v).any (· == 0)

def ofInt (n : Int) : Value := (toString n).toList

def ofBool (b : Bool) : Value := if b then ['1'] else ['0']

def matched (text pattern : Octets) : Option Value := do
  let (r, groups) ← RegexReader.read? false pattern
  let t : Regex.Subject := ⟨text.toArray, false⟩
  match Regex.matchAt? t r 0 with
  | some p =>
    if groups = 0 then return ofInt p.position
    else
      match p.groups.lookup 1 with
      | some (a, b) => return (text.drop a).take (b - a)
      | none => return []
  | none => return if groups = 0 then ['0'] else []

def levels : List (List String) :=
  [["|"], ["&"], ["<", "<=", "=", "==", "!=", ">=", ">"], ["+", "-"], ["*", "/", "%"], [":"]]

def apply (operator : String) (a b : Value) : Option Value :=
  let numbers (f : Int → Int → Option Int) : Option Value := do
    return ofInt (← f (← number? a) (← number? b))
  let order (f : Ordering → Bool) : Option Value :=
    match number? a, number? b with
    | some x, some y => some (ofBool (f (compare x y)))
    | _, _ => some (ofBool (f (compare (String.ofList a) (String.ofList b))))
  match operator with
  | "|" => some (if !isNull a then a else if !isNull b then b else ['0'])
  | "&" => some (if isNull a || isNull b then ['0'] else a)
  | "<" => order (· == .lt)
  | "<=" => order (· != .gt)
  | "=" | "==" => order (· == .eq)
  | "!=" => order (· != .eq)
  | ">=" => order (· != .lt)
  | ">" => order (· == .gt)
  | "+" => numbers fun x y ↦ some (x + y)
  | "-" => numbers fun x y ↦ some (x - y)
  | "*" => numbers fun x y ↦ some (x * y)
  | "/" => numbers fun x y ↦ if y = 0 then none else some (x.tdiv y)
  | "%" => numbers fun x y ↦ if y = 0 then none else some (x.tmod y)
  | _ => matched a b

mutual

def term : Nat → List (List String) → List Octets → Option (Value × List Octets)
  | 0, _, _ => none
  | n + 1, level :: tighter, ws => do
    let (a, ws) ← term n tighter ws
    more n level tighter a ws
  | n + 1, [], ws =>
    match ws.map String.ofList, ws with
    | "(" :: _, _ :: rest => do
      let (a, rest) ← term n levels rest
      match rest with
      | [')'] :: rest => some (a, rest)
      | _ => none
    | "length" :: _ :: _, _ :: rest => do
      let (a, rest) ← term n [] rest
      some (ofInt a.length, rest)
    | "match" :: _ :: _, _ :: rest => do
      let (a, rest) ← term n [] rest
      let (b, rest) ← term n [] rest
      some (← matched a b, rest)
    | "index" :: _ :: _, _ :: rest => do
      let (a, rest) ← term n [] rest
      let (b, rest) ← term n [] rest
      some (ofInt ((a.findIdx? (b.contains ·)).elim 0 (· + 1)), rest)
    | "substr" :: _ :: _, _ :: rest => do
      let (a, rest) ← term n [] rest
      let (i, rest) ← term n [] rest
      let (k, rest) ← term n [] rest
      match number? i, number? k with
      | some i, some k =>
        some (if i < 1 ∨ k < 1 then [] else (a.drop (i.toNat - 1)).take k.toNat, rest)
      | _, _ => some ([], rest)
    | "+" :: _ :: _, _ :: w :: rest => some (w, rest)
    | _, w :: rest => some (w, rest)
    | _, [] => none

def more : Nat → List String → List (List String) → Value → List Octets →
    Option (Value × List Octets)
  | 0, _, _, _, _ => none
  | n + 1, level, tighter, a, ws =>
    match ws with
    | w :: rest =>
      if level.contains (String.ofList w) then do
        let (b, rest) ← term n tighter rest
        more n level tighter (← apply (String.ofList w) a b) rest
      else some (a, ws)
    | [] => some (a, [])

end

def value? (ws : List Octets) : Option Value := do
  let (v, rest) ← term (16 * (ws.length + 2)) levels ws
  if rest.isEmpty then some v else none

end Expression

namespace Utility

open Run

def expr : Utility := fun ws ↦ do
  let ws := if ws.head? = some ['-', '-'] then ws.tail else ws
  match Expression.value? ws with
  | some v =>
    emit (v ++ ['\n'])
    setStatus (if Expression.isNull v then 1 else 0)
  | none => setStatus 2

end Utility

end Reactor.Shell
