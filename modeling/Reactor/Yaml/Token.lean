import Reactor.Yaml.Scalar

namespace Reactor.Yaml

inductive Token
  | version (major minor : Nat)
  | tagPrefix (handle start : List Char)
  | documentStart
  | documentEnd
  | streamEnd
  | blockSequenceStart
  | blockMappingStart
  | blockEnd
  | flowSequenceStart
  | flowSequenceEnd
  | flowMappingStart
  | flowMappingEnd
  | blockEntry
  | flowEntry
  | key
  | value
  | alias (name : List Char)
  | anchor (name : List Char)
  | tag (handle suffix : List Char)
  | scalar (text : List Char) (isPlain : Bool)
  deriving DecidableEq, Repr

/-- A node that may turn out to be a key; `token` tells how many tokens come before it. -/
structure Candidate where
  token : Nat
  index : Nat
  line : Nat
  column : Nat
  isRequired : Bool

structure Lexer where
  cursor : Cursor
  tokens : List Token
  count : Nat
  /-- The column of the innermost block collection, and those of the outer ones. -/
  indent : Int
  indents : List Int
  /-- One place for each open flow collection, the innermost first, and one for the block around
  them. -/
  candidates : List (Option Candidate)
  isKeyAllowed : Bool

def keyLimit : Nat := 1024

namespace Lexer

def ofText (cs : List Char) : Lexer := ⟨.ofText cs, [], 0, -1, [], [none], true⟩

variable (l : Lexer)

def inFlow : Bool := l.candidates.length > 1

def emit (t : Token) : Lexer := { l with tokens := t :: l.tokens, count := l.count + 1 }

/-- A key is known only at the colon behind it; the tokens that announce it are put before its node
then. -/
def insert (t : Token) (position : Nat) : Lexer :=
  let (later, earlier) := l.tokens.splitAt (l.count - position)
  { l with tokens := later ++ t :: earlier, count := l.count + 1 }

def skip (n : Nat) : Lexer := { l with cursor := l.cursor.advance n }

def allowKey (isAllowed : Bool) : Lexer := { l with isKeyAllowed := isAllowed }

/-- A candidate on an earlier line, or too far back, is no key. -/
def isStale (c : Candidate) : Bool :=
  c.line < l.cursor.line || c.index + keyLimit < l.cursor.index

def dropStale : Except Malformed Lexer :=
  if l.candidates.any (·.any fun c ↦ l.isStale c && c.isRequired) then .error .simpleKey
  else .ok { l with candidates := l.candidates.map (·.filter (!l.isStale ·)) }

def dropCandidate : Except Malformed Lexer :=
  match l.candidates with
  | some c :: outer =>
    if c.isRequired then .error .simpleKey else .ok { l with candidates := none :: outer }
  | _ => .ok l

/-- The next node is a candidate where keys are allowed; at the indent of a block it has to be a
key. -/
def saveCandidate : Except Malformed Lexer :=
  if !l.isKeyAllowed then .ok l
  else do
    let l ← l.dropCandidate
    let c := l.cursor
    let candidate : Candidate :=
      ⟨l.count, c.index, c.line, c.column, !l.inFlow && l.indent == (c.column : Int)⟩
    return { l with candidates := some candidate :: l.candidates.tail }

def unroll (column : Int) : Lexer :=
  if l.inFlow then l
  else
    let closed := (l.indent :: l.indents).takeWhile (· > column)
    let rest := (l.indent :: l.indents).dropWhile (· > column)
    { l with
      tokens := closed.map (fun _ ↦ .blockEnd) ++ l.tokens
      count := l.count + closed.length
      indent := rest.headD (-1)
      indents := rest.tail }

def roll (column : Nat) (position : Nat) (t : Token) : Lexer :=
  if l.inFlow || l.indent ≥ (column : Int) then l
  else { l.insert t position with indent := column, indents := l.indent :: l.indents }

/-- Blanks, comments and line breaks before the next token. After a line break a key may come. A
tab may stand where no key can begin. -/
def skipSpacing : Nat → Lexer → Lexer
  | 0, l => l
  | fuel + 1, l =>
    let c := l.cursor
    let c := if c.column == 0 && c.isAhead '\ufeff' then c.advance 1 else c
    let tabs := l.inFlow || !l.isKeyAllowed
    let c := (c.skipWhile fun ch ↦ ch == ' ' || (tabs && ch == '\t')).skipComment
    if c.isBreakAhead then
      skipSpacing fuel { l with cursor := c.nextLine, isKeyAllowed := !l.inFlow || l.isKeyAllowed }
    else { l with cursor := c }

def fetchStreamEnd : Except Malformed Lexer := do
  let l ← (l.unroll (-1)).dropCandidate
  return (l.allowKey false).emit .streamEnd

def versionNumber (c : Cursor) : Except Malformed (Nat × Cursor) :=
  let (digits, c) := c.takeWhile Char.isDigit
  if digits.isEmpty || digits.length > 9 then .error .directive
  else .ok (digits.foldl (fun n d ↦ 10 * n + (d.toNat - '0'.toNat)) 0, c)

def isUriChar (isVerbatim : Bool) (c : Char) : Bool :=
  isWordChar c || ";/?:@&=+$.%!~*'()".toList.contains c
    || (isVerbatim && (c == ',' || c == '[' || c == ']'))

def octet? : List Char → Option Nat
  | '%' :: a :: b :: _ => hexNumber? [a, b]
  | _ => none

def octetLength? (n : Nat) : Option (Nat × Nat) :=
  if n < 0x80 then some (1, n)
  else if 0xc0 ≤ n && n < 0xe0 then some (2, n % 0x20)
  else if 0xe0 ≤ n && n < 0xf0 then some (3, n % 0x10)
  else if 0xf0 ≤ n && n < 0xf8 then some (4, n % 0x08)
  else none

def escapedOctets (cs : List Char) : Except Malformed (Char × Nat) :=
  match (octet? cs).bind octetLength? with
  | none => .error .tag
  | some (length, first) =>
    let step (n : Option Nat) (i : Nat) : Option Nat := do
      let trail ← octet? (cs.drop (3 * i))
      if trail / 0x40 = 2 then some (0x40 * (← n) + trail % 0x40) else none
    match ((List.range length).drop 1).foldl step (some first) with
    | some n => .ok (if n.isValidChar then Char.ofNat n else '\ufffd', 3 * length)
    | none => .error .tag

def uriChars (isVerbatim : Bool) :
    Nat → List Char → Cursor → Except Malformed (List Char × Cursor)
  | 0, text, c => .ok (text, c)
  | fuel + 1, text, c =>
    match c.rest with
    | [] => .ok (text, c)
    | ch :: _ =>
      if ch = '%' then
        match escapedOctets c.rest with
        | .ok (d, n) => uriChars isVerbatim fuel (d :: text) (c.advance n)
        | .error e => .error e
      else if isUriChar isVerbatim ch then uriChars isVerbatim fuel (ch :: text) (c.advance 1)
      else .ok (text, c)

/-- A tag after the handle `head`, whose leading mark does not count. What follows an escaped null
character is read but not kept. -/
def scanUri (isVerbatim : Bool) (head : List Char) (c : Cursor) :
    Except Malformed (List Char × Cursor) := do
  let (text, c) ← uriChars isVerbatim c.rest.length [] c
  if text.isEmpty && head.isEmpty then throw .tag
  return (head.drop 1 ++ text.reverse.takeWhile (· ≠ '\x00'), c)

def scanHandle (c : Cursor) : Except Malformed (List Char × Cursor) :=
  if !c.isAhead '!' then .error .tag
  else
    let (word, c) := (c.advance 1).takeWhile isWordChar
    if c.isAhead '!' then .ok ('!' :: word ++ ['!'], c.advance 1) else .ok ('!' :: word, c)

def isNamedHandle (handle : List Char) : Bool :=
  handle.length > 1 && handle.getLast? == some '!'

def versionDirective (c : Cursor) : Except Malformed (Token × Cursor) := do
  let (major, c) ← versionNumber c.skipBlanks
  if !c.isAhead '.' then throw .directive
  let (minor, c) ← versionNumber (c.advance 1)
  return (.version major minor, c)

def tagDirective (c : Cursor) : Except Malformed (Token × Cursor) := do
  let (handle, c) ← scanHandle c.skipBlanks
  if !isNamedHandle handle && handle ≠ ['!'] then throw .directive
  if !c.isBlankAhead then throw .directive
  let (start, c) ← scanUri true [] c.skipBlanks
  if !c.isSpacingAt 0 then throw .directive
  return (.tagPrefix handle start, c)

def fetchDirective : Except Malformed Lexer := do
  let l ← (l.unroll (-1)).dropCandidate
  let (name, c) := (l.cursor.advance 1).takeWhile isWordChar
  if !c.isSpacingAt 0 then throw .directive
  let (token, c) ← match String.ofList name with
    | "YAML" => versionDirective c
    | "TAG" => tagDirective c
    | _ => throw .directive
  let c := c.skipBlanks.skipComment
  if !c.isEnd && !c.isBreakAhead then throw .directive
  let c := if c.isBreakAhead then c.nextLine else c
  return ({ l with cursor := c }.allowKey false).emit token

def fetchMarker (t : Token) : Except Malformed Lexer := do
  let l ← (l.unroll (-1)).dropCandidate
  return ((l.allowKey false).skip 3).emit t

def fetchFlowStart (t : Token) : Except Malformed Lexer := do
  let l ← l.saveCandidate
  return (({ l with candidates := none :: l.candidates }.allowKey true).skip 1).emit t

def fetchFlowEnd (t : Token) : Except Malformed Lexer := do
  let l ← l.dropCandidate
  let l := if l.inFlow then { l with candidates := l.candidates.tail } else l
  return ((l.allowKey false).skip 1).emit t

def fetchFlowEntry : Except Malformed Lexer := do
  let l ← l.dropCandidate
  return ((l.allowKey true).skip 1).emit .flowEntry

def openBlock (t : Token) : Except Malformed Lexer :=
  if l.inFlow then .ok l
  else if !l.isKeyAllowed then .error .token
  else .ok (l.roll l.cursor.column l.count t)

def fetchBlockEntry : Except Malformed Lexer := do
  let l ← (← l.openBlock .blockSequenceStart).dropCandidate
  return ((l.allowKey true).skip 1).emit .blockEntry

def fetchKey : Except Malformed Lexer := do
  let l ← (← l.openBlock .blockMappingStart).dropCandidate
  return ((l.allowKey !l.inFlow).skip 1).emit .key

def fetchValue : Except Malformed Lexer := do
  match l.candidates with
  | some c :: outer =>
    let l := (l.insert .key c.token).roll c.column c.token .blockMappingStart
    return (({ l with candidates := none :: outer }.allowKey false).skip 1).emit .value
  | _ =>
    let l ← l.openBlock .blockMappingStart
    return ((l.allowKey !l.inFlow).skip 1).emit .value

def endsAnchor (c : Cursor) : Bool :=
  c.isSpacingAt 0 || (c.at? 0).any ("?:,]\x7d%@`".toList.contains ·)

def fetchAnchor (token : List Char → Token) : Except Malformed Lexer := do
  let l := (← l.saveCandidate).allowKey false
  let (name, c) := (l.cursor.advance 1).takeWhile isWordChar
  if name.isEmpty || !endsAnchor c then throw .anchor
  return { l with cursor := c }.emit (token name)

def verbatimTag (c : Cursor) : Except Malformed (Token × Cursor) := do
  let (suffix, c) ← scanUri true [] (c.advance 2)
  if !c.isAhead '>' then throw .tag
  return (.tag [] suffix, c.advance 1)

/-- A tag with a handle; one mark alone is a tag of its own. -/
def shorthandTag (c : Cursor) : Except Malformed (Token × Cursor) := do
  let (handle, c) ← scanHandle c
  if isNamedHandle handle then
    let (suffix, c) ← scanUri false [] c
    return (.tag handle suffix, c)
  else
    let (suffix, c) ← scanUri false handle c
    return (if suffix.isEmpty then .tag [] ['!'] else .tag ['!'] suffix, c)

def fetchTag : Except Malformed Lexer := do
  let l := (← l.saveCandidate).allowKey false
  let (token, c) ←
    if l.cursor.at? 1 = some '<' then verbatimTag l.cursor else shorthandTag l.cursor
  if !c.isSpacingAt 0 && !(l.inFlow && c.isAhead ',') then throw .tag
  return { l with cursor := c }.emit token

def fetchBlockScalar (isLiteral : Bool) : Except Malformed Lexer := do
  let l := (← l.dropCandidate).allowKey true
  let (text, c) ← scanBlock isLiteral l.indent l.cursor
  return { l with cursor := c }.emit (.scalar text false)

def fetchQuoted (isSingle : Bool) : Except Malformed Lexer := do
  let l := (← l.saveCandidate).allowKey false
  let (text, c) ← scanQuoted isSingle l.cursor
  return { l with cursor := c }.emit (.scalar text false)

def fetchPlain : Except Malformed Lexer := do
  let l := (← l.saveCandidate).allowKey false
  let ((text, isBroken), c) ← scanPlain l.inFlow (l.indent + 1).toNat l.cursor
  return ({ l with cursor := c }.allowKey isBroken).emit (.scalar text true)

def isIndicator (c : Char) : Bool := "-?:,[]\x7b\x7d#&*!|>'\"%@`".toList.contains c

def startsPlain (ch : Char) : Bool :=
  (!isIndicator ch && !isSpacing ch)
    || (ch == '-' && !(l.cursor.at? 1).any isBlank)
    || (!l.inFlow && (ch == '?' || ch == ':') && !l.cursor.isSpacingAt 1)

/-- Adds the next token, and those that it entails; `fuel` is no less than what is left. -/
def fetch (fuel : Nat) (l : Lexer) : Except Malformed Lexer := do
  let l ← (l.skipSpacing fuel).dropStale
  let l := l.unroll l.cursor.column
  let c := l.cursor
  match c.at? 0 with
  | none => l.fetchStreamEnd
  | some ch =>
    if c.column == 0 && ch == '%' then l.fetchDirective
    else if c.isAtMarker then
      l.fetchMarker (if ch = '-' then .documentStart else .documentEnd)
    else match ch with
    | '[' => l.fetchFlowStart .flowSequenceStart
    | '{' => l.fetchFlowStart .flowMappingStart
    | ']' => l.fetchFlowEnd .flowSequenceEnd
    | '}' => l.fetchFlowEnd .flowMappingEnd
    | ',' => l.fetchFlowEntry
    | '*' => l.fetchAnchor .alias
    | '&' => l.fetchAnchor .anchor
    | '!' => l.fetchTag
    | '\'' => l.fetchQuoted true
    | '"' => l.fetchQuoted false
    | _ =>
      if ch == '-' && c.isSpacingAt 1 then l.fetchBlockEntry
      else if ch == '?' && (l.inFlow || c.isSpacingAt 1) then l.fetchKey
      else if ch == ':' && (l.inFlow || c.isSpacingAt 1) then l.fetchValue
      else if ch == '|' && !l.inFlow then l.fetchBlockScalar true
      else if ch == '>' && !l.inFlow then l.fetchBlockScalar false
      else if l.startsPlain ch then l.fetchPlain
      else throw .token

/-- Every step but the last takes at least one character. -/
def run : Nat → Lexer → Except Malformed Lexer
  | 0, l => .ok l
  | fuel + 1, l => do
    let l ← l.fetch fuel
    if l.tokens.head? = some .streamEnd then return l
    run fuel l

end Lexer

def Token.scan (cs : List Char) : Except Malformed (List Token) :=
  if cs.all isStreamChar then ((Lexer.ofText cs).run (cs.length + 1)).map (·.tokens.reverse)
  else .error .character

end Reactor.Yaml
