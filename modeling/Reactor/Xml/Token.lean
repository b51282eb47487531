import Reactor.Xml.Name

namespace Reactor.Xml

structure Attribute where
  name : QName
  value : String
  deriving DecidableEq, Repr

/-- `text` says whether it was written as white space alone, which may stand outside the root. -/
inductive Token
  | opening (name : QName) (attributes : List Attribute) (isEmpty : Bool)
  | closing (name : QName)
  | text (content : List Char) (isBlank : Bool)
  | comment
  | instruction
  deriving DecidableEq, Repr

/-- A token with the document from its first character on, and what follows it there. -/
structure Located where
  token : Token
  input : List Char
  rest : List Char

/-- A reference that names no character at all stands for `U+FFFD`. -/
def charOfNumber (n : Nat) : Char :=
  if n.isValidChar then Char.ofNat n else '\ufffd'

def digitValue? (radix : Nat) (c : Char) : Option Nat :=
  let value :=
    if c.isDigit then c.toNat - '0'.toNat
    else if 'a' ≤ c && c ≤ 'f' then c.toNat - 'a'.toNat + 10
    else if 'A' ≤ c && c ≤ 'F' then c.toNat - 'A'.toNat + 10
    else radix
  if value < radix then some value else none

/-- Numbers of references have at least one digit and fit into 32 bits. -/
def readNumber (radix : Nat) (cs : List Char) : Option (Nat × List Char) :=
  let isDigit := fun c ↦ (digitValue? radix c).isSome
  let digits := (cs.takeWhile isDigit).filterMap (digitValue? radix)
  let n := digits.foldl (fun n d ↦ radix * n + d) 0
  if digits.isEmpty || n ≥ Nat.pow 2 32 then none else some (n, cs.dropWhile isDigit)

def readReference (cs : List Char) : Except Malformed (Char × List Char) := do
  let (c, rest) ← match cs with
    | '#' :: 'x' :: ds => numbered (readNumber 16 ds)
    | '#' :: ds => numbered (readNumber 10 ds)
    | ds => do
      let (name, rest) ← readName ds
      match name with
      | "quot" => pure ('"', rest)
      | "amp" => pure ('&', rest)
      | "apos" => pure ('\'', rest)
      | "lt" => pure ('<', rest)
      | "gt" => pure ('>', rest)
      | _ => throw .reference
  return (c, ← expect ";" rest)
where
  numbered : Option (Nat × List Char) → Except Malformed (Char × List Char)
    | some (n, rest) =>
      let c := charOfNumber n
      if isXmlChar c then .ok (c, rest) else .error .reference
    | none => .error .reference

/-- Adds a character of the document to the text read so far, last one first: a carriage return,
alone or before a line feed, becomes a line feed. -/
def pushText (buffer : List Char) (c : Char) (isLast : Bool) : List Char :=
  match buffer with
  | '\r' :: earlier =>
    let buffer := '\n' :: earlier
    if isLast && c = '\r' then '\n' :: buffer else if c = '\n' then buffer else c :: buffer
  | _ => if isLast && c = '\r' then '\n' :: buffer else c :: buffer

/-- A referenced character is kept as it is, and so is the character after it. -/
def resolveText (fuel : Nat) (buffer : List Char) (keep : Bool) (cs : List Char) :
    Except Malformed (List Char) :=
  match fuel, cs with
  | _, [] => .ok buffer.reverse
  | 0, _ => .error .endOfText
  | fuel + 1, '&' :: cs => do
    let (c, rest) ← readReference cs
    resolveText fuel (c :: buffer) true rest
  | fuel + 1, c :: cs =>
    let buffer := if keep then c :: buffer else pushText buffer c cs.isEmpty
    resolveText fuel buffer false cs

def resolveSection (buffer : List Char) : List Char → List Char
  | [] => buffer.reverse
  | c :: cs => resolveSection (pushText buffer c cs.isEmpty) cs

/-- White space of an attribute value is written as spaces, one for each line ending. -/
def resolveAttribute (fuel : Nat) (cs : List Char) : Except Malformed (List Char) :=
  match fuel, cs with
  | _, [] => .ok []
  | 0, _ => .error .endOfText
  | fuel + 1, '&' :: cs => do
    let (c, rest) ← readReference cs
    return c :: (← resolveAttribute fuel rest)
  | fuel + 1, '\r' :: '\n' :: cs => resolveAttribute fuel ('\n' :: cs)
  | fuel + 1, c :: cs =>
    return (if isSpace c then ' ' else c) :: (← resolveAttribute fuel cs)

def readQuote : Reader Char
  | '"' :: cs => .ok ('"', cs)
  | '\'' :: cs => .ok ('\'', cs)
  | _ => .error (.expected "a quote")

def readRawAttribute (cs : List Char) : Except Malformed ((QName × List Char) × List Char) := do
  let (name, rest) ← readQName cs
  let rest ← expect "=" (skipSpaces rest)
  let (quote, rest) ← readQuote (skipSpaces rest)
  let (value, rest) ← readUntil (fun cs ↦ cs.head? == some quote || cs.head? == some '<') rest
  return ((name, value), ← expect (String.singleton quote) rest)

def readAttributes (fuel : Nat) (attributes : List Attribute) (cs : List Char) :
    Except Malformed ((List Attribute × Bool) × List Char) :=
  match fuel with
  | 0 => .error .endOfText
  | fuel + 1 =>
    let spaced := cs.head?.any isSpace
    match skipSpaces cs with
    | [] => .error .endOfText
    | '/' :: rest => do return ((attributes.reverse, true), ← expect ">" rest)
    | '>' :: rest => .ok ((attributes.reverse, false), rest)
    | rest =>
      if !spaced then .error (.expected "a space")
      else do
        let ((name, raw), rest) ← readRawAttribute rest
        let value ← resolveAttribute raw.length raw
        readAttributes fuel (⟨name, String.ofList value⟩ :: attributes) rest

def readComment (cs : List Char) : Except Malformed (List Char) := do
  let (text, rest) ← readUntil (startsWith "-->") cs
  let rest ← expect "-->" rest
  if hasDashes text then throw .comment
  return rest
where
  hasDashes : List Char → Bool
    | [] => false
    | ['-'] => true
    | '-' :: '-' :: _ => true
    | _ :: cs => hasDashes cs

def readInstruction (cs : List Char) : Except Malformed (List Char) := do
  let (_, rest) ← readName cs
  let (_, rest) ← readUntil (startsWith "?>") (skipSpaces rest)
  expect "?>" rest

def hasSectionEnd : List Char → Bool
  | [] => false
  | c :: cs => startsWith "]]>" (c :: cs) || hasSectionEnd cs

namespace Token

/-- The token at the front of a text that is not empty; `fuel` is no less than its length. -/
def next (fuel : Nat) (cs : List Char) : Except Malformed (Token × List Char) :=
  match cs with
  | '<' :: '!' :: rest =>
    if startsWith "--" rest then do return (comment, ← readComment (rest.drop 2))
    else if startsWith "[CDATA[" rest then do
      let (raw, rest) ← readUntil (startsWith "]]>") (rest.drop 7)
      return (text (resolveSection [] raw) false, ← expect "]]>" rest)
    else .error .documentType
  | '<' :: '?' :: rest =>
    if startsWith "xml " rest then .error .declaration
    else do return (instruction, ← readInstruction rest)
  | '<' :: '/' :: rest => do
    let (name, rest) ← readQName rest
    return (closing name, ← expect ">" (skipSpaces rest))
  | '<' :: rest => do
    let (name, rest) ← readQName rest
    let ((attributes, isEmpty), rest) ← readAttributes fuel [] rest
    return (opening name attributes isEmpty, rest)
  | cs => do
    let (raw, rest) ← readUntil (fun cs ↦ cs.head? == some '<') cs
    if hasSectionEnd raw then throw .characterData
    return (text (← resolveText raw.length [] false raw) (raw.all isSpace), rest)

/-- Every token takes at least one character. -/
def scanWith : Nat → List Char → Except Malformed (List Located)
  | _, [] => .ok []
  | 0, _ => .error .endOfText
  | fuel + 1, cs => do
    let (token, rest) ← next (fuel + 1) cs
    return ⟨token, cs, rest⟩ :: (← scanWith fuel rest)

def scan (cs : List Char) : Except Malformed (List Located) := scanWith cs.length cs

end Token

/-- The declaration that may stand at the very start: a version, then perhaps an encoding and a
statement that the document stands alone, none of whose values matters. -/
def readDeclaration (cs : List Char) : Except Malformed (List Char) := do
  let rest ← spaces cs
  if !startsWith "version" rest then throw (.expected "version")
  let rest ← item rest
  let rest ← if startsWith "encoding" rest then item rest else pure rest
  let rest ← if startsWith "standalone" rest then
    (do return (← readRawAttribute rest).2) else pure rest
  expect "?>" (skipSpaces rest)
where
  spaces (cs : List Char) : Except Malformed (List Char) :=
    if cs.head?.any isSpace || startsWith "?>" cs || cs.isEmpty then .ok (skipSpaces cs)
    else .error (.expected "a space")
  item (cs : List Char) : Except Malformed (List Char) := do
    let (_, rest) ← readRawAttribute cs
    spaces rest

end Reactor.Xml
