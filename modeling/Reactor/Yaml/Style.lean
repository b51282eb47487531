import Reactor.Yaml.Value

namespace Reactor.Yaml.Style

def isPrintable (c : Char) : Bool :=
  let n := c.toNat
  n == 0x0a || (0x20 ≤ n && n ≤ 0x7e) || (0xa0 ≤ n && n ≤ 0xd7ff)
    || (0xe000 ≤ n && n ≤ 0xfffd && n != 0xfeff) || 0x10000 ≤ n

def hasPair (p q : Char → Bool) : List Char → Bool
  | a :: b :: cs => (p a && q b) || hasPair p q (b :: cs)
  | _ => false

def isSpace (c : Char) : Bool := c == ' '

def needsEscapes (cs : List Char) : Bool :=
  cs.any (!isPrintable ·) || hasPair isSpace isBreak cs

def isOpening (c : Char) : Bool := "#,[]\x7b\x7d&*!|>'\"%@`".toList.contains c

def hasIndicator (cs : List Char) : Bool :=
  match cs with
  | [] => false
  | c :: rest =>
    isOpening c
      || ((c == '?' || c == ':' || c == '-') && rest.head?.all isSpacing)
      || (rest.getLast? == some ':')
      || hasPair (· == ':') isSpacing rest
      || hasPair isSpacing (· == '#') cs
      || "---".toList.isPrefixOf cs || "...".toList.isPrefixOf cs

def canBePlain (cs : List Char) : Bool :=
  !cs.isEmpty && !needsEscapes cs && !hasIndicator cs && !cs.any isBreak
    && !cs.head?.any isSpace && !cs.getLast?.any isSpace

/-- A space at the start of a later line would be lost between single quotes. -/
def canBeSingleQuoted (cs : List Char) : Bool :=
  !needsEscapes cs && !hasPair isBreak isSpace cs

def canBeBlock (cs : List Char) : Bool := !needsEscapes cs && !cs.getLast?.any isSpace

def isReadAsText (cs : List Char) : Bool :=
  match Scalar.untagged cs with
  | .ok (.text _) => !isZeroPadded cs
  | _ => false

def indentation (column : Nat) : List Char := List.replicate column ' '

def blockLines (column : Nat) : Bool → List Char → List Char
  | _, [] => []
  | startsLine, c :: cs =>
    if isBreak c then c :: blockLines column true cs
    else (if startsLine then indentation column else []) ++ c :: blockLines column false cs

/-- How a block says that it begins with white space and how it ends. -/
def blockHints (cs : List Char) : List Char :=
  (if cs.head?.any fun c ↦ isSpace c || isBreak c then ['2'] else [])
    ++ match cs.reverse with
      | [] => ['-']
      | [c] => if isBreak c then ['+'] else ['-']
      | c :: d :: _ => if !isBreak c then ['-'] else if isBreak d then ['+'] else []

/-- A block ends its last line itself if the text does. -/
def literal (column : Nat) (cs : List Char) : List Char :=
  ['|'] ++ blockHints cs ++ ['\n'] ++ blockLines column true cs
    ++ if cs.getLast?.any isBreak then [] else ['\n']

/-- A quote is written twice, and each further line is indented. -/
def singleQuoted (column : Nat) : Bool → List Char → List Char
  | startsLine, [] => if startsLine then indentation column else []
  | startsLine, c :: cs =>
    if isBreak c then c :: singleQuoted column true cs
    else
      (if startsLine then indentation column else []) ++ (if c = '\'' then ['\'', c] else [c])
        ++ singleQuoted column false cs

def hexDigit (n : Nat) : Char := (Nat.digitChar n).toUpper

def hexDigits (width n : Nat) : List Char :=
  (List.range width).reverse.map fun i ↦ hexDigit (n / Nat.pow 16 i % 16)

def letterEscapes : List (Char × Char) :=
  [('\x00', '0'), ('\x07', 'a'), ('\x08', 'b'), ('\t', 't'), ('\n', 'n'), ('\x0b', 'v'),
    ('\x0c', 'f'), ('\r', 'r'), ('\x1b', 'e'), ('"', '"'), ('\\', '\\'), ('\u0085', 'N'),
    ('\u00a0', '_'), ('\u2028', 'L'), ('\u2029', 'P')]

def doubleQuotedChar (c : Char) : List Char :=
  if isPrintable c && !isBreak c && c != '"' && c != '\\' then [c]
  else match letterEscapes.lookup c with
    | some e => ['\\', e]
    | none =>
      if c.toNat ≤ 0xff then ['\\', 'x'] ++ hexDigits 2 c.toNat
      else if c.toNat ≤ 0xffff then ['\\', 'u'] ++ hexDigits 4 c.toNat
      else ['\\', 'U'] ++ hexDigits 8 c.toNat

/-- A text with line feeds is a literal block, a text that would be read as something else is
quoted, and the others are plain; where a form cannot hold the text, one that holds more is used. -/
def write (column : Nat) (cs : List Char) : List Char :=
  let double := ['"'] ++ cs.flatMap doubleQuotedChar ++ ['"', '\n']
  if cs.contains '\n' then if canBeBlock cs then literal column cs else double
  else if isReadAsText cs && canBePlain cs then cs ++ ['\n']
  else if canBeSingleQuoted cs then
    ['\''] ++ singleQuoted column false cs ++ ['\'', '\n']
  else double

end Reactor.Yaml.Style
