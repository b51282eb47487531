namespace Reactor.Yaml

inductive Malformed
  | character
  | token
  | directive
  | anchor
  | tag
  | escape
  | quoted
  | plain
  | block
  | indentation
  | simpleKey
  | grammar
  | document
  | unknownAlias
  | duplicateKey
  | tooDeep
  | tooManyAliases
  | wrongType
  deriving DecidableEq, Repr

def isStreamChar (c : Char) : Bool :=
  let n := c.toNat
  n == 0x09 || n == 0x0a || n == 0x0d || (0x20 ≤ n && n ≤ 0x7e) || n == 0x85
    || (0xa0 ≤ n && n ≤ 0xd7ff) || (0xe000 ≤ n && n ≤ 0xfffd) || 0x10000 ≤ n

def isBreak (c : Char) : Bool :=
  c == '\r' || c == '\n' || c == '\u0085' || c == '\u2028' || c == '\u2029'

def isBlank (c : Char) : Bool := c == ' ' || c == '\t'

/-- Blanks and breaks; the end of the stream counts as one of them. -/
def isSpacing (c : Char) : Bool := isBlank c || isBreak c

def isWordChar (c : Char) : Bool := c.isAlphanum || c == '_' || c == '-'

structure Cursor where
  rest : List Char
  index : Nat
  line : Nat
  column : Nat

namespace Cursor

def ofText (cs : List Char) : Cursor := ⟨cs, 0, 0, 0⟩

variable (c : Cursor)

def advance (n : Nat) : Cursor :=
  { c with rest := c.rest.drop n, index := c.index + n, column := c.column + n }

def nextLine : Cursor :=
  match c.rest with
  | '\r' :: '\n' :: rest => ⟨rest, c.index + 2, c.line + 1, 0⟩
  | _ :: rest => ⟨rest, c.index + 1, c.line + 1, 0⟩
  | [] => c

def breakText : List Char :=
  match c.rest with
  | b :: _ => if b = '\u2028' ∨ b = '\u2029' then [b] else if isBreak b then ['\n'] else []
  | [] => []

def starts (token : String) : Bool := token.toList.isPrefixOf c.rest

def at? (i : Nat) : Option Char := c.rest[i]?

def isSpacingAt (i : Nat) : Bool := (c.at? i).all isSpacing

def isBreakAhead : Bool := (c.at? 0).any isBreak

def isBlankAhead : Bool := (c.at? 0).any isBlank

def isAhead (ch : Char) : Bool := c.at? 0 == some ch

def isEnd : Bool := c.rest.isEmpty

/-- The characters from here on that satisfy `p`; `p` holds of no break. -/
def takeWhile (p : Char → Bool) : List Char × Cursor :=
  let taken := c.rest.takeWhile p
  (taken, c.advance taken.length)

def skipWhile (p : Char → Bool) : Cursor := (c.takeWhile p).2

def skipBlanks : Cursor := c.skipWhile isBlank

def skipComment : Cursor :=
  if c.isAhead '#' then c.skipWhile (!isBreak ·) else c

def isAtMarker : Bool :=
  c.column == 0 && (c.starts "---" || c.starts "...") && c.isSpacingAt 3

end Cursor

end Reactor.Yaml
