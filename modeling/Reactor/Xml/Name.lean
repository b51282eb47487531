namespace Reactor.Xml

inductive Malformed
  | character (c : Char)
  | endOfText
  | expected (what : String)
  | name
  | comment
  | declaration
  | documentType
  | characterData
  | attributeValue
  | reference
  | unknownPrefix (name : String)
  | duplicateAttribute
  | duplicateNamespace
  | namespaceName
  | closingTag
  | outsideRoot
  | noRoot
  | unclosed
  deriving DecidableEq, Repr

def isSpace (c : Char) : Bool := c == ' ' || c == '\t' || c == '\n' || c == '\r'

/-- Below the space only white space is allowed, and the two last code points of the basic plane
are not characters. -/
def isXmlChar (c : Char) : Bool :=
  if c.toNat < 0x20 then isSpace c else c.toNat != 0xfffe && c.toNat != 0xffff

def isAsciiLetter (c : Char) : Bool := ('a' ≤ c && c ≤ 'z') || ('A' ≤ c && c ≤ 'Z')

def isNameStart (c : Char) : Bool :=
  let n := c.toNat
  if n ≤ 128 then isAsciiLetter c || c == ':' || c == '_'
  else (0xc0 ≤ n && n ≤ 0x2ff && n != 0xd7 && n != 0xf7) || (0x370 ≤ n && n ≤ 0x1fff && n != 0x37e)
    || n == 0x200c || n == 0x200d || (0x2070 ≤ n && n ≤ 0x218f) || (0x2c00 ≤ n && n ≤ 0x2fef)
    || (0x3001 ≤ n && n ≤ 0xd7ff) || (0xf900 ≤ n && n ≤ 0xfdcf) || (0xfdf0 ≤ n && n ≤ 0xfffd)
    || (0x10000 ≤ n && n ≤ 0xeffff)

def isNameChar (c : Char) : Bool :=
  let n := c.toNat
  isNameStart c || c.isDigit || c == '-' || c == '.' || n == 0xb7 || (0x300 ≤ n && n ≤ 0x36f)
    || n == 0x203f || n == 0x2040

/-- A name with the prefix before its colon; without a colon the prefix is empty. -/
structure QName where
  pre : String
  base : String
  deriving DecidableEq, Repr

abbrev Reader (α : Type) := List Char → Except Malformed (α × List Char)

def expect (token : String) (cs : List Char) : Except Malformed (List Char) :=
  if token.toList.isPrefixOf cs then .ok (cs.drop token.length) else .error (.expected token)

def skipSpaces (cs : List Char) : List Char := cs.dropWhile isSpace

def startsWith (token : String) (cs : List Char) : Bool := token.toList.isPrefixOf cs

def readName : Reader String
  | [] => .error .name
  | c :: cs =>
    if isNameStart c then
      .ok (String.ofList (c :: cs.takeWhile isNameChar), cs.dropWhile isNameChar)
    else .error .name

def isLocalStart : List Char → Bool
  | c :: _ => isNameStart c
  | [] => false

/-- A name with at most one colon, whose two parts each start as a name does. -/
def readQName (cs : List Char) : Except Malformed (QName × List Char) :=
  let word := cs.takeWhile isNameChar
  let rest := cs.dropWhile isNameChar
  match word.span (· ≠ ':') with
  | (base, []) =>
    if isLocalStart base then .ok (⟨"", String.ofList base⟩, rest) else .error .name
  | (pre, _ :: base) =>
    if base.contains ':' then .error .name
    else if (pre.isEmpty || isLocalStart pre) && isLocalStart base then
      .ok (⟨String.ofList pre, String.ofList base⟩, rest)
    else .error .name

def readUntil (stop : List Char → Bool) : Reader (List Char)
  | [] => .ok ([], [])
  | c :: cs =>
    if !isXmlChar c then .error (.character c)
    else if stop (c :: cs) then .ok ([], c :: cs)
    else do
      let (text, rest) ← readUntil stop cs
      return (c :: text, rest)

end Reactor.Xml
