import Reactor.Shell.Mark
import Std.Data.HashSet

namespace Reactor.Shell

open Text (ByteSet)

inductive Regex
  | empty
  | one (s : ByteSet)
  | lineStart
  | lineEnd
  | wordStart
  | wordEnd
  | wordEdge
  | noWordEdge
  | join (a b : Regex)
  | either (a b : Regex)
  | times (r : Regex) (low : Nat) (high : Option Nat)
  | group (n : Nat) (r : Regex)
  /-- What a group has matched. -/
  | again (n : Nat)
  deriving Repr

namespace Regex

structure Progress where
  position : Nat
  groups : List (Nat × Nat × Nat)

def isWord (c : Char) : Bool := c.isAlphanum || c == '_'

def toLower (c : Char) : Char := if c.isUpper then Char.ofNat (c.toNat + 32) else c

def toUpper (c : Char) : Char := if c.isLower then Char.ofNat (c.toNat - 32) else c

structure Subject where
  text : Array Char
  foldsCase : Bool

variable (t : Subject)

def Subject.accepts (s : ByteSet) (c : Char) : Bool :=
  s.contains (byteOf c)
    || (t.foldsCase && (s.contains (byteOf (toLower c)) || s.contains (byteOf (toUpper c))))

def Subject.isWordAt (i : Nat) : Bool := (t.text[i]?).any isWord

def Subject.isWordBefore (i : Nat) : Bool := 0 < i && t.isWordAt (i - 1)

/-- How many octets from a position on are in a set, at most so many. -/
def Subject.run (s : ByteSet) : Nat → Nat → Nat
  | 0, _ => 0
  | n + 1, i =>
    match t.text[i]? with
    | some c => if t.accepts s c then Subject.run s n (i + 1) + 1 else 0
    | none => 0

/-- What tells two ways apart: the position, and where a group is repeated also the groups. -/
abbrev Way := Nat × List (Nat × Nat × Nat)

def wayOf (keepsGroups : Bool) (p : Progress) : Way :=
  (p.position, if keepsGroups then p.groups else [])

def distinct (keepsGroups : Bool) (ps : List Progress) : List Progress :=
  (ps.foldl (fun (seen, kept) p ↦
    let way := wayOf keepsGroups p
    if seen.contains way then (seen, kept) else (seen.insert way, p :: kept))
    ((∅ : Std.HashSet Way), [])).2.reverse

def sameText (a b : Nat) : Nat → Bool
  | 0 => true
  | n + 1 =>
    match t.text[a]?, t.text[b]? with
    | some c, some d =>
      (c == d || (t.foldsCase && toLower c == toLower d)) && sameText (a + 1) (b + 1) n
    | _, _ => false

/-- What a repetition has come to: the ways met, each with the rounds that count, and the ways to
end, the last one first. -/
structure Rounds where
  seen : Std.HashSet (Nat × Way)
  ends : List Progress

mutual

/-- The ways to go on from some, the ones that are tried first before others. -/
def ways (keepsGroups : Bool) : Nat → Regex → List Progress → List Progress
  | 0, _, _ => []
  | n + 1, r, ps =>
    match r with
    | empty => ps
    | one s => ps.filterMap fun p ↦
      if (t.text[p.position]?).any (t.accepts s) then some { p with position := p.position + 1 }
      else none
    | lineStart => ps.filter (·.position == 0)
    | lineEnd => ps.filter (·.position == t.text.size)
    | wordStart => ps.filter fun p ↦ !t.isWordBefore p.position && t.isWordAt p.position
    | wordEnd => ps.filter fun p ↦ t.isWordBefore p.position && !t.isWordAt p.position
    | wordEdge => ps.filter fun p ↦ t.isWordBefore p.position != t.isWordAt p.position
    | noWordEdge => ps.filter fun p ↦ t.isWordBefore p.position == t.isWordAt p.position
    | join a b => ways keepsGroups n b (ways keepsGroups n a ps)
    | either a b => distinct keepsGroups (ps.flatMap fun p ↦
        ways keepsGroups n a [p] ++ ways keepsGroups n b [p])
    | group k r => distinct keepsGroups (ps.flatMap fun p ↦
        (ways keepsGroups n r [p]).map fun q ↦
          { q with groups := (k, p.position, q.position) :: q.groups.filter (·.1 != k) })
    | again k => ps.filterMap fun p ↦
      (p.groups.lookup k).bind fun (a, b) ↦
        let stop := p.position + (b - a)
        if stop ≤ t.text.size && sameText t a p.position (b - a) then
          some { p with position := stop }
        else none
    | times (one s) low high => distinct keepsGroups (ps.flatMap fun p ↦
        let most := min (high.getD t.text.size) (t.text.size - p.position)
        let count := t.run s most p.position
        ((List.range (count + 1)).reverse.filter (low ≤ ·)).map fun k ↦
          { p with position := p.position + k })
    | times r low high =>
      let rounds := ps.foldl (fun rounds p ↦ repeated keepsGroups n r low high 0 p rounds) ⟨∅, []⟩
      distinct keepsGroups rounds.ends.reverse

/-- Goes the rounds of a repetition from one way on. Beyond the least number of rounds they count
only where there is a greatest one. -/
def repeated (keepsGroups : Bool) :
    Nat → Regex → Nat → Option Nat → Nat → Progress → Rounds → Rounds
  | 0, _, _, _, _, _, rounds => rounds
  | n + 1, r, low, high, count, p, rounds =>
    let key := (if high.isNone then min count low else count, wayOf keepsGroups p)
    if rounds.seen.contains key then rounds
    else
      let more := if high.all (count < ·) then
          (ways keepsGroups n r [p]).filter fun q ↦ q.position != p.position || count < low
        else []
      let rounds := more.foldl
        (fun rounds q ↦ repeated keepsGroups n r low high (count + 1) q rounds)
        { rounds with seen := rounds.seen.insert key }
      if low ≤ count then { rounds with ends := p :: rounds.ends } else rounds

end

def depth : Regex → Nat
  | join a b | either a b => max a.depth b.depth + 1
  | times r low _ => r.depth + low + 1
  | group _ r => r.depth + 1
  | _ => 1

def hasAgain : Regex → Bool
  | again _ => true
  | join a b | either a b => a.hasAgain || b.hasAgain
  | times r _ _ | group _ r => r.hasAgain
  | _ => false

def matchAt? (r : Regex) (i : Nat) : Option Progress :=
  let fuel := (r.depth + 1) * (t.text.size + 2) + 2
  (ways t r.hasAgain fuel r [⟨i, []⟩]).foldl (fun best p ↦
    match best with
    | some b => if b.position < p.position then some p else best
    | none => some p) none

def search? (r : Regex) : Nat → Nat → Option (Nat × Progress)
  | 0, _ => none
  | n + 1, i =>
    match matchAt? t r i with
    | some p => some (i, p)
    | none => search? r n (i + 1)

def find? (r : Regex) (i : Nat) : Option (Nat × Progress) :=
  if i ≤ t.text.size then search? t r (t.text.size + 1 - i) i else none

end Regex

namespace RegexReader

open Regex

structure Reading where
  rest : Octets
  groups : Nat

abbrev Reader := StateT Reading Option

def octets (cs : Octets) : ByteSet := ⟨cs.map fun c ↦ (byteOf c, byteOf c), false⟩

def wordSet : ByteSet :=
  ⟨[(byteOf '0', byteOf '9'), (byteOf 'A', byteOf 'Z'), (byteOf 'a', byteOf 'z'),
    (byteOf '_', byteOf '_')], false⟩

def spaceSet : ByteSet := ⟨[(byteOf '\t', byteOf '\x0d'), (byteOf ' ', byteOf ' ')], false⟩

def complement (s : ByteSet) : ByteSet := { s with isComplement := !s.isComplement }

def members : Nat → List (Char × Char) → Octets → Option (List (Char × Char) × Octets)
  | 0, _, _ => none
  | n + 1, found, cs =>
    let more (found : List (Char × Char)) (rest : Octets) :=
      match rest with
      | ']' :: rest => some (found, rest)
      | rest => members n found rest
    match cs with
    | [] => none
    | c :: rest =>
      match if c = '[' then namedClass? rest else none with
      | some (ranges, rest) => more (ranges ++ found) rest
      | none =>
        match c, rest with
        | '\\', 'n' :: rest => more (('\n', '\n') :: found) rest
        | '\\', 't' :: rest => more (('\t', '\t') :: found) rest
        | low, '-' :: high :: rest =>
          if high = ']' then more ((low, low) :: found) ('-' :: high :: rest)
          else if high < low then none
          else more ((low, high) :: found) rest
        | c, rest => more ((c, c) :: found) rest

def bracket? (cs : Octets) : Option (ByteSet × Octets) :=
  let (isComplement, body) := match cs with
    | '^' :: rest => (true, rest)
    | _ => (false, cs)
  (members body.length [] body).map fun (found, rest) ↦
    (⟨found.map fun (a, b) ↦ (byteOf a, byteOf b), isComplement⟩, rest)

def bounds? (cs : Octets) : Option (Nat × Option Nat × Octets) :=
  let low := cs.takeWhile Char.isDigit
  let number (ds : Octets) : Nat := (String.ofList ds).toNat?.getD 0
  match cs.drop low.length with
  | ',' :: rest =>
    let high := rest.takeWhile Char.isDigit
    some (number low, if high.isEmpty then none else some (number high), rest.drop high.length)
  | rest => if low.isEmpty then none else some (number low, some (number low), rest)

def setRest (cs : Octets) : Reader Unit := modify ({ · with rest := cs })

def peek : Reader Octets := return (← get).rest

def atEnd (isExtended : Bool) (isInner : Bool) (cs : Octets) : Bool :=
  match isExtended, cs with
  | _, [] => true
  | true, '|' :: _ => true
  | true, ')' :: _ => isInner
  | false, '\\' :: '|' :: _ => true
  | false, '\\' :: ')' :: _ => true
  | _, _ => false

def repetition? (isExtended : Bool) (cs : Octets) : Option (Nat × Option Nat × Octets) :=
  let bounded (cs : Octets) : Option (Nat × Option Nat × Octets) :=
    match isExtended, bounds? cs with
    | true, some (low, high, '\x7d' :: rest) => some (low, high, rest)
    | false, some (low, high, '\\' :: '\x7d' :: rest) => some (low, high, rest)
    | _, _ => none
  match isExtended, cs with
  | _, '*' :: rest => some (0, none, rest)
  | true, '+' :: rest | false, '\\' :: '+' :: rest => some (1, none, rest)
  | true, '?' :: rest | false, '\\' :: '?' :: rest => some (0, some 1, rest)
  | true, '\x7b' :: rest | false, '\\' :: '\x7b' :: rest => bounded rest
  | _, _ => none

def repetitions (isExtended : Bool) : Nat → Regex → Reader Regex
  | 0, r => return r
  | n + 1, r => do
    match repetition? isExtended (← peek) with
    | some (low, high, rest) =>
      setRest rest
      repetitions isExtended n (.times r low high)
    | none => return r

mutual

def alternatives (isExtended isInner : Bool) : Nat → Reader Regex
  | 0 => failure
  | n + 1 => do
    let a ← sequence isExtended isInner n true
    match isExtended, ← peek with
    | true, '|' :: rest | false, '\\' :: '|' :: rest =>
      setRest rest
      return .either a (← alternatives isExtended isInner n)
    | _, _ => return a

def sequence (isExtended isInner : Bool) : Nat → Bool → Reader Regex
  | 0, _ => failure
  | n + 1, isFirst => do
    if atEnd isExtended isInner (← peek) then return .empty
    let (a, mayRepeat) ← item isExtended isInner n isFirst
    let a ← if mayRepeat then repetitions isExtended (← peek).length a else pure a
    return .join a (← sequence isExtended isInner n (!mayRepeat && isFirst))

def item (isExtended isInner : Bool) : Nat → Bool → Reader (Regex × Bool)
  | 0, _ => failure
  | n + 1, isFirst => do
    let literal (c : Char) (rest : Octets) : Reader (Regex × Bool) := do
      setRest rest
      return (.one (octets [c]), true)
    let put (r : Regex) (mayRepeat : Bool) (rest : Octets) : Reader (Regex × Bool) := do
      setRest rest
      return (r, mayRepeat)
    let group (rest : Octets) : Reader (Regex × Bool) := do
      let k := (← get).groups + 1
      set (⟨rest, k⟩ : Reading)
      let r ← alternatives isExtended true n
      match isExtended, ← peek with
      | true, ')' :: rest | false, '\\' :: ')' :: rest => put (.group k r) true rest
      | _, _ => failure
    match ← peek with
    | [] => failure
    | '\\' :: c :: rest =>
      match c with
      | 'w' => put (.one wordSet) true rest
      | 'W' => put (.one (complement wordSet)) true rest
      | 's' => put (.one spaceSet) true rest
      | 'S' => put (.one (complement spaceSet)) true rest
      | 'b' => put .wordEdge true rest
      | 'B' => put .noWordEdge true rest
      | '<' => put .wordStart true rest
      | '>' => put .wordEnd true rest
      | 'n' => literal '\n' rest
      | 't' => literal '\t' rest
      | '(' => if isExtended then literal c rest else group rest
      | _ =>
        if c.isDigit && c != '0' then
          if (← get).groups < c.toNat - 48 then failure
          put (.again (c.toNat - 48)) true rest
        else if !isExtended && c == '\x7b' && !isFirst then failure
        else literal c rest
    | ['\\'] => failure
    | '.' :: rest => put (.one .all) true rest
    | '[' :: rest =>
      match bracket? rest with
      | some (s, rest) => put (.one s) true rest
      | none => failure
    | '^' :: rest => if isExtended || isFirst then put .lineStart false rest else literal '^' rest
    | '$' :: rest =>
      if isExtended || atEnd isExtended isInner rest then put .lineEnd false rest
      else literal '$' rest
    | c :: rest =>
      if isExtended && c == '(' then group rest
      else literal c rest

end

def read? (isExtended : Bool) (cs : Octets) : Option (Regex × Nat) := do
  let (r, left) ← (alternatives isExtended false (6 * cs.length + 10)).run ⟨cs, 0⟩
  if left.rest.isEmpty then some (r, left.groups) else none

end RegexReader

end Reactor.Shell
