import Reactor.Yaml.Cursor

namespace Reactor.Yaml

/-- The white space between two words: blanks on one line, or a first break and later ones. -/
structure Gap where
  blanks : List Char
  first : List Char
  later : List Char
  isBroken : Bool

namespace Gap

def empty : Gap := ⟨[], [], [], false⟩

/-- The break after an escaping backslash stands for nothing. -/
def escaped : Gap := ⟨[], [], [], true⟩

def folded (g : Gap) : List Char :=
  if !g.isBroken then g.blanks
  else if g.first = ['\n'] then if g.later.isEmpty then [' '] else g.later
  else g.first ++ g.later

def addBlank (g : Gap) (c : Char) : Gap :=
  if g.isBroken then g else { g with blanks := g.blanks ++ [c] }

def addBreak (g : Gap) (text : List Char) : Gap :=
  if g.isBroken then { g with later := g.later ++ text }
  else { g with first := text, isBroken := true }

/-- The gap from here to the next word. A tab that stands before column `indent` of a later line is
refused. -/
def scan (indent : Nat) : Nat → Gap → Cursor → Except Malformed (Gap × Cursor)
  | 0, g, c => .ok (g, c)
  | fuel + 1, g, c =>
    match c.rest with
    | [] => .ok (g, c)
    | ch :: _ =>
      if isBlank ch then
        if g.isBroken && ch == '\t' && c.column < indent then .error .indentation
        else scan indent fuel (g.addBlank ch) (c.advance 1)
      else if isBreak ch then scan indent fuel (g.addBreak c.breakText) c.nextLine
      else .ok (g, c)

end Gap

def isFlowIndicator (c : Char) : Bool :=
  c == ',' || c == '[' || c == ']' || c == '{' || c == '}'

/-- A word of a plain scalar ends before white space and before a colon that white space follows;
inside brackets also before the indicators of a collection. -/
def plainWord (inFlow : Bool) : List Char → Except Malformed (List Char)
  | [] => .ok []
  | c :: cs =>
    if isSpacing c then .ok []
    else if c == ':' && cs.head?.all isSpacing then .ok []
    else if inFlow && c == ':' && cs.head?.any fun d ↦ isFlowIndicator d || d == '?' then
      .error .plain
    else if inFlow && isFlowIndicator c then .ok []
    else (plainWord inFlow cs).map (c :: ·)

/-- Words and gaps up to a comment, a document marker, an indicator or a line with a smaller
indent, after `text` with its last character first; a gap counts only before a further word. The
answer says whether a break was met last. -/
def plainWords (inFlow : Bool) (indent : Nat) :
    Nat → List Char → Gap → Cursor → Except Malformed ((List Char × Bool) × Cursor)
  | 0, text, g, c => .ok ((text.reverse, g.isBroken), c)
  | fuel + 1, text, g, c =>
    if c.isAtMarker || c.isAhead '#' then .ok ((text.reverse, g.isBroken), c)
    else do
      let word ← plainWord inFlow c.rest
      let text := if word.isEmpty then text else word.reverse ++ g.folded.reverse ++ text
      let g := if word.isEmpty then g else .empty
      let c := c.advance word.length
      if !(c.at? 0).any isSpacing then return ((text.reverse, g.isBroken), c)
      let (g, c) ← Gap.scan indent (fuel + 1) g c
      if !inFlow && c.column < indent then return ((text.reverse, g.isBroken), c)
      plainWords inFlow indent fuel text g c

def scanPlain (inFlow : Bool) (indent : Nat) (c : Cursor) :
    Except Malformed ((List Char × Bool) × Cursor) :=
  plainWords inFlow indent c.rest.length [] .empty c

def hexValue? (c : Char) : Option Nat :=
  if c.isDigit then some (c.toNat - '0'.toNat)
  else if 'a' ≤ c && c ≤ 'f' then some (c.toNat - 'a'.toNat + 10)
  else if 'A' ≤ c && c ≤ 'F' then some (c.toNat - 'A'.toNat + 10)
  else none

def hexNumber? (cs : List Char) : Option Nat :=
  cs.foldlM (fun n c ↦ (hexValue? c).map (16 * n + ·)) 0

def escapes : List (Char × Char) :=
  [('0', '\x00'), ('a', '\x07'), ('b', '\x08'), ('t', '\t'), ('\t', '\t'), ('n', '\n'),
    ('v', '\x0b'), ('f', '\x0c'), ('r', '\r'), ('e', '\x1b'), (' ', ' '), ('"', '"'), ('/', '/'),
    ('\\', '\\'), ('N', '\u0085'), ('_', '\u00a0'), ('L', '\u2028'), ('P', '\u2029')]

/-- How many hexadecimal digits follow these letters. -/
def codeLengths : List (Char × Nat) := [('x', 2), ('u', 4), ('U', 8)]

def readEscape (cs : List Char) : Except Malformed (Char × Nat) :=
  match cs with
  | [] => .error .escape
  | e :: digits =>
    match escapes.lookup e, codeLengths.lookup e with
    | some c, _ => .ok (c, 1)
    | none, none => .error .escape
    | none, some length =>
      match hexNumber? (digits.take length) with
      | some n =>
        if length ≤ digits.length && n.isValidChar then .ok (Char.ofNat n, length + 1)
        else .error .escape
      | none => .error .escape

inductive WordEnd
  | quote
  | escapedBreak
  | space

def quotedWord (isSingle : Bool) :
    Nat → List Char → Cursor → Except Malformed ((List Char × WordEnd) × Cursor)
  | 0, _, _ => .error .quoted
  | fuel + 1, text, c =>
    match c.rest with
    | [] => .ok ((text, .space), c)
    | ch :: cs =>
      if isSpacing ch then .ok ((text, .space), c)
      else if isSingle then
        if ch ≠ '\'' then quotedWord isSingle fuel (ch :: text) (c.advance 1)
        else if cs.head? = some '\'' then quotedWord isSingle fuel ('\'' :: text) (c.advance 2)
        else .ok ((text, .quote), c)
      else if ch = '"' then .ok ((text, .quote), c)
      else if ch ≠ '\\' then quotedWord isSingle fuel (ch :: text) (c.advance 1)
      else if cs.head?.any isBreak then .ok ((text, .escapedBreak), (c.advance 1).nextLine)
      else
        match readEscape cs with
        | .ok (d, n) => quotedWord isSingle fuel (d :: text) (c.advance (n + 1))
        | .error e => .error e

/-- Words and gaps up to the closing quote, after `text` with its last character first. No line
inside begins with a document marker. -/
def quotedWords (isSingle : Bool) :
    Nat → List Char → Cursor → Except Malformed (List Char × Cursor)
  | 0, _, _ => .error .quoted
  | fuel + 1, text, c =>
    if c.isAtMarker || c.isEnd then .error .quoted
    else do
      let ((text, ending), c) ← quotedWord isSingle (fuel + 1) text c
      let quote := if isSingle then '\'' else '"'
      if c.isAhead quote then return (text.reverse, c.advance 1)
      let start := match ending with
        | .escapedBreak => Gap.escaped
        | _ => .empty
      let (g, c) ← Gap.scan 0 (fuel + 1) start c
      quotedWords isSingle fuel (g.folded.reverse ++ text) c

def scanQuoted (isSingle : Bool) (c : Cursor) : Except Malformed (List Char × Cursor) :=
  quotedWords isSingle (c.rest.length + 1) [] (c.advance 1)

inductive Chomping
  | strip
  | clip
  | keep
  deriving DecidableEq

def blockHeader (c : Cursor) : Except Malformed ((Chomping × Option Nat) × Cursor) :=
  let chomping (c : Cursor) : Option Chomping × Cursor :=
    if c.isAhead '+' then (some .keep, c.advance 1)
    else if c.isAhead '-' then (some .strip, c.advance 1)
    else (none, c)
  let increment (c : Cursor) : Except Malformed (Option Nat × Cursor) :=
    match c.at? 0 with
    | some d =>
      if d = '0' then .error .block
      else if d.isDigit then .ok (some (d.toNat - '0'.toNat), c.advance 1)
      else .ok (none, c)
    | none => .ok (none, c)
  match chomping c with
  | (some chomp, c) => do
    let (inc, c) ← increment c
    return ((chomp, inc), c)
  | (none, c) => do
    let (inc, c) ← increment c
    let (chomp, c) := if inc.isSome then chomping c else (none, c)
    return ((chomp.getD .clip, inc), c)

/-- Indentation and empty lines before the next line of a block. While the indent is not known,
`widest` is the greatest column reached. -/
def blockBreaks (indent : Option Nat) :
    Nat → Nat → List Char → Cursor → Except Malformed ((Nat × List Char) × Cursor)
  | 0, widest, breaks, c => .ok ((widest, breaks), c)
  | fuel + 1, widest, breaks, c =>
    let spaces := (c.rest.takeWhile (· = ' ')).length
    let spaces := match indent with
      | some i => min spaces (i - c.column)
      | none => spaces
    let c := c.advance spaces
    let widest := max widest c.column
    if indent.all (c.column < ·) && c.isAhead '\t' then .error .indentation
    else if c.isBreakAhead then
      blockBreaks indent fuel widest (breaks ++ c.breakText) c.nextLine
    else .ok ((widest, breaks), c)

/-- The lines of a block from a column `indent` on, after `text` with its last character first.
`last` is the break that ended the line before and `breaks` are those of the empty lines since; the
answer has both apart. -/
def blockLines (isLiteral : Bool) (indent : Nat) :
    Nat → List Char → List Char → List Char → Bool →
      Cursor → Except Malformed ((List Char × List Char × List Char) × Cursor)
  | 0, text, last, breaks, _, c => .ok ((text.reverse, last, breaks), c)
  | fuel + 1, text, last, breaks, wasBlank, c =>
    if c.column ≠ indent || c.isEnd then .ok ((text.reverse, last, breaks), c)
    else do
      let isBlank := c.isBlankAhead
      let isFolded := !isLiteral && last.head? == some '\n' && !wasBlank && !isBlank
      let joint := if isFolded then if breaks.isEmpty then [' '] else [] else last
      let (line, c) := c.takeWhile (!isBreak ·)
      let text := line.reverse ++ breaks.reverse ++ joint.reverse ++ text
      let last := c.breakText
      let c := if c.isBreakAhead then c.nextLine else c
      let ((_, breaks), c) ← blockBreaks (some indent) (fuel + 1) 0 [] c
      blockLines isLiteral indent fuel text last breaks isBlank c

def scanBlock (isLiteral : Bool) (outer : Int) (c : Cursor) :
    Except Malformed (List Char × Cursor) := do
  let ((chomping, increment), c) ← blockHeader (c.advance 1)
  let c := c.skipBlanks.skipComment
  if !c.isEnd && !c.isBreakAhead then throw .block
  let c := if c.isBreakAhead then c.nextLine else c
  let known := increment.map fun n ↦ (max outer 0).toNat + n
  let ((widest, breaks), c) ← blockBreaks known (c.rest.length + 1) 0 [] c
  let indent := known.getD (max (max widest (outer + 1).toNat) 1)
  let ((text, last, breaks), c) ←
    blockLines isLiteral indent (c.rest.length + 1) [] [] breaks false c
  let text := if chomping = .strip then text else text ++ last
  return (if chomping = .keep then text ++ breaks else text, c)

end Reactor.Yaml
