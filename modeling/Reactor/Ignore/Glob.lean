import Reactor.Text.Pattern

namespace Reactor

open Text (ByteSet Pattern)

inductive GlobFault
  | danglingEscape
  | backwardRange (low high : Char)
  | unopenedChoice
  | unclosedChoice
  deriving DecidableEq, Repr

def GlobFault.message : GlobFault → String
  | danglingEscape => "dangling '\\'"
  | backwardRange low high => s!"invalid range; '{low}' > '{high}'"
  | unopenedChoice =>
    "unopened alternate group; missing '\x7b' (maybe escape '\x7d' with '[\x7d]'?)"
  | unclosedChoice =>
    "unclosed alternate group; missing '\x7d' (maybe escape '\x7b' with '[\x7b]'?)"

inductive GlobToken
  | character (c : Char)
  | any
  | star
  | deepStart
  | deepEnd
  | deepInner
  | choice (p : Pattern) (depth : Nat)
  | oneOf (s : ByteSet)
  deriving DecidableEq, Repr

namespace GlobToken

def slash : Pattern := .literal "/"

def pattern : GlobToken → Pattern
  | character c => .literal (String.singleton c)
  | any => .byte (.except 47)
  | star => .many (.byte (.except 47))
  | deepStart => .oneOf [.empty, slash, .join .anything slash]
  | deepEnd => .join slash .anything
  | deepInner => .oneOf [slash, .all [slash, .anything, slash]]
  | choice p _ => p
  | oneOf s => .byte s

def patternOf (tokens : List GlobToken) : Pattern := .all (tokens.map pattern)

/-- How many items of a sequence a token makes: a character has one for each byte. -/
def width : GlobToken → Nat
  | character c => c.utf8Size
  | deepEnd => 2
  | choice p _ => if p = .empty then 0 else 1
  | _ => 1

/-- How deep the items of a token lie in one another: classes, repetitions, groups, alternatives and
sequences of several items count one each, and so does a class of several ranges once more. -/
def depth : GlobToken → Nat
  | character _ => 0
  | any => 1
  | star => 2
  | deepStart | deepInner => 4
  | deepEnd => 1
  | choice _ depth => depth
  | oneOf s => if s.ranges.length = 1 then 1 else 2

def depthOf (tokens : List GlobToken) : Nat :=
  let inner := tokens.foldl (fun n t ↦ max n t.depth) 0
  if tokens.foldl (fun n t ↦ n + t.width) 0 > 1 then inner + 1 else inner

end GlobToken

/-- The bytes of a class range. Where an end has several bytes, only the neighbouring bytes of the
two ends make a range. -/
def classRanges (low high : Char) : List (UInt8 × UInt8) :=
  let bytes (c : Char) := (String.singleton c).toUTF8.toList
  let one (b : UInt8) := (b, b)
  if low = high then (bytes low).map one
  else
    (bytes low).dropLast.map one
      ++ ((bytes low).getLast?.toList.zip (bytes high).head?.toList)
      ++ (bytes high).tail.map one

namespace GlobClass

structure Reading where
  ranges : List (Char × Char)
  isOpen : Bool

def Reading.put (r : Reading) (c : Char) : Except GlobFault Reading :=
  match r.isOpen, r.ranges with
  | true, (low, _) :: rest =>
    if c < low then .error (.backwardRange low c) else .ok ⟨(low, c) :: rest, false⟩
  | _, ranges => .ok ⟨(c, c) :: ranges, false⟩

/-- Reads up to the closing bracket; none if there is none. A bracket or `-` in first place stands
for itself, and so does a `-` in last place. -/
def read (isFirst : Bool) (r : Reading) :
    List Char → Except GlobFault (Option (Reading × List Char))
  | [] => .ok none
  | ']' :: rest =>
    if isFirst then read false ⟨[(']', ']')], false⟩ rest
    else
      let last := if r.isOpen then [('-', '-')] else []
      .ok (some (⟨last ++ r.ranges, false⟩, rest))
  | '-' :: rest =>
    if isFirst then read false ⟨[('-', '-')], false⟩ rest
    else if r.isOpen then
      match r.put '-' with
      | .ok r => read false r rest
      | .error e => .error e
    else read false { r with isOpen := true } rest
  | c :: rest =>
    match r.put c with
    | .ok r => read false r rest
    | .error e => .error e

def ofChars (cs : List Char) : Except GlobFault (Option (ByteSet × List Char)) :=
  let (isComplement, cs) := match cs with
    | '!' :: rest | '^' :: rest => (true, rest)
    | _ => (false, cs)
  (read true ⟨[], false⟩ cs).map fun found ↦ found.map fun (r, rest) ↦
    (⟨r.ranges.reverse.flatMap fun (low, high) ↦ classRanges low high, isComplement⟩, rest)

end GlobClass

/-- What is read of a glob: the tokens of the branch at hand, last one first, and for each open
brace the tokens before it with the branches that are complete. -/
structure GlobReading where
  tokens : List GlobToken
  enclosing : List (List GlobToken × List (List GlobToken))
  last : Option Char
  /-- Brackets stand for themselves once one has been found open. -/
  readsClasses : Bool

namespace GlobReading

def start : GlobReading := ⟨[], [], none, true⟩

variable (r : GlobReading)

def put (t : GlobToken) : GlobReading := { r with tokens := t :: r.tokens }

def branch : List GlobToken := r.tokens.reverse

def choiceOf (branches : List (List GlobToken)) : GlobToken :=
  match branches.filter (GlobToken.patternOf · ≠ .empty) with
  | [] => .choice .empty 0
  | [b] => .choice (GlobToken.patternOf b) (GlobToken.depthOf b + 1)
  | bs => .choice (.oneOf (bs.map GlobToken.patternOf))
      (bs.foldl (fun n b ↦ max n (GlobToken.depthOf b)) 0 + 2)

def openChoice : GlobReading := { r with tokens := [], enclosing := (r.tokens, []) :: r.enclosing }

def closeChoice : Except GlobFault GlobReading :=
  match r.enclosing with
  | [] => .error .unopenedChoice
  | (before, branches) :: outer =>
    .ok { r with
      tokens := choiceOf (branches ++ [r.branch]) :: before
      enclosing := outer }

def comma : GlobReading :=
  match r.enclosing with
  | [] => r.put (.character ',')
  | (before, branches) :: outer =>
    { r with tokens := [], enclosing := (before, branches ++ [r.branch]) :: outer }

/-- Takes a double star that fills a whole step in place of the slash before it. -/
def deepen (t : GlobToken) : GlobReading :=
  match r.tokens with
  | .deepStart :: _ | .deepEnd :: _ => r
  | _ :: rest => { r with tokens := t :: rest }
  | [] => r.put t

def twoStars : GlobReading := (r.put .star).put .star

def doubleStar (before : Option Char) (cs : List Char) : GlobReading × List Char :=
  let isOpen := !r.enclosing.isEmpty
  if r.tokens.isEmpty then
    match cs with
    | [] => (r.put .deepStart, [])
    | '/' :: rest => ({ r.put .deepStart with last := some '/' }, rest)
    | _ => (r.twoStars, cs)
  else if before ≠ some '/' ∧ ¬(isOpen ∧ (before = some ',' ∨ before = some '\x7b')) then
    (r.twoStars, cs)
  else
    match cs with
    | [] => (r.deepen .deepEnd, [])
    | '/' :: rest => ({ r.deepen .deepInner with last := some '/' }, rest)
    | c :: _ =>
      if isOpen && (c == ',' || c == '\x7d') then (r.deepen .deepEnd, cs) else (r.twoStars, cs)

def step (c : Char) (rest : List Char) : Except GlobFault (GlobReading × List Char) :=
  let before := r.last
  let r := { r with last := some c }
  match c with
  | '?' => .ok (r.put .any, rest)
  | '*' =>
    match rest with
    | '*' :: rest => .ok (r.doubleStar before rest)
    | _ => .ok (r.put .star, rest)
  | '[' =>
    if r.readsClasses then
      match GlobClass.ofChars rest with
      | .error e => .error e
      | .ok (some (s, rest)) => .ok ({ r.put (.oneOf s) with last := some ']' }, rest)
      | .ok none => .ok ({ r.put (.character '[') with readsClasses := false }, rest)
    else .ok (r.put (.character '['), rest)
  | '\x7b' => .ok (r.openChoice, rest)
  | '\x7d' => r.closeChoice.map (·, rest)
  | ',' => .ok (r.comma, rest)
  | '\\' =>
    match rest with
    | [] => .error .danglingEscape
    | c :: rest => .ok ({ r.put (.character c) with last := some c }, rest)
  | c => .ok (r.put (.character c), rest)

/-- Each step takes at least one character, so as many steps as characters are enough. -/
def run : Nat → GlobReading → List Char → Except GlobFault GlobReading
  | n + 1, r, c :: rest =>
    match r.step c rest with
    | .ok (r, rest) => run n r rest
    | .error e => .error e
  | _, r, _ => .ok r

end GlobReading

structure Glob where
  pattern : Pattern
  depth : Nat
  deriving DecidableEq, Repr

namespace Glob

def depthLimit : Nat := 250

/-- Reads a glob. A double star alone matches every path; the ends of the path are items too. -/
def ofText (glob : String) : Except GlobFault Glob :=
  let cs := glob.toList
  match GlobReading.start.run cs.length cs with
  | .error e => .error e
  | .ok r =>
    if !r.enclosing.isEmpty then .error .unclosedChoice
    else if r.tokens = [.deepStart] then .ok ⟨.anything, 2⟩
    else .ok ⟨GlobToken.patternOf r.branch, r.tokens.foldl (fun n t ↦ max n t.depth) 0 + 1⟩

end Glob

end Reactor
