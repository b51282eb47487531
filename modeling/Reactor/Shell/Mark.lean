import Reactor.Files.Disk
import Reactor.Shell.Script
import Reactor.Text.Pattern

namespace Reactor.Shell

open Text (ByteSet Pattern)

inductive Mark
  /-- Loose octets come from values outside quotes; fields end where they separate. -/
  | octet (c : Char) (isQuoted isLoose : Bool)
  /-- A field is here even if it is empty. -/
  | keep
  /-- A field ends here; a hard end leaves empty fields in place. -/
  | cut (isHard : Bool)
  /-- The end of a value outside quotes. -/
  | seam
  deriving DecidableEq, Repr

namespace Mark

def fixed (isQuoted : Bool) (cs : Octets) : List Mark := cs.map (.octet · isQuoted false)

def loose (cs : Octets) : List Mark := cs.map (.octet · false true) ++ [seam]

def placed (isQuoted : Bool) (value : Octets) : List Mark :=
  if isQuoted then fixed true value else loose value

def loosen : Mark → Mark
  | octet c false _ => octet c false true
  | m => m

def octet? : Mark → Option Char
  | octet c _ _ => some c
  | _ => none

def textOf (marks : List Mark) : Octets := marks.filterMap octet?

def patternTextOf (marks : List Mark) : Octets :=
  marks.flatMap fun
    | octet c true _ => ['\\', c]
    | octet c false _ => [c]
    | _ => []

def isBlankSeparator (c : Char) : Bool := c == ' ' || c == '\t' || c == '\n'

/-- Fields under construction: the complete ones, last one first, the octets of the open one, last
one first, and whether the separator just passed was a blank. -/
structure Fields where
  complete : List (List Mark)
  current : Option (List Mark)
  passing : Option Bool

namespace Fields

def close (f : Fields) : Fields :=
  { f with complete := f.current.toList ++ f.complete, current := none }

def add (f : Fields) (m : Mark) : Fields :=
  { f with current := some (m :: f.current.getD []), passing := none }

/-- Passes a separator. Blanks separate together with at most one other separator. -/
def separate (f : Fields) (isBlank : Bool) : Fields :=
  match f.passing, f.current with
  | some true, none => { f with passing := some isBlank }
  | some false, none =>
    if isBlank then f else { f with complete := [] :: f.complete, passing := some false }
  | _, none => if isBlank then f else { f with complete := [] :: f.complete, passing := some false }
  | _, some _ => { f.close with passing := some isBlank }

def put (separators : Octets) (f : Fields) (m : Mark) : Fields :=
  match m with
  | octet c _ true => if separators.contains c then f.separate (isBlankSeparator c) else f.add m
  | octet .. => f.add m
  | keep => { f with current := some (f.current.getD []), passing := none }
  | seam => { f with passing := none }
  | cut false => f.separate true
  | cut true => { complete := f.current.getD [] :: f.complete, current := some [], passing := none }

end Fields

def fieldsOf (separators : Octets) (marks : List Mark) : List (List Mark) :=
  (marks.foldl (Fields.put separators) ⟨[], none, none⟩).close.complete.reverse.map List.reverse

end Mark

def namedClasses : List (String × List (Char × Char)) :=
  [("alnum", [('0', '9'), ('A', 'Z'), ('a', 'z')]), ("alpha", [('A', 'Z'), ('a', 'z')]),
    ("blank", [('\t', '\t'), (' ', ' ')]), ("cntrl", [('\x00', '\x1f'), ('\x7f', '\x7f')]),
    ("digit", [('0', '9')]), ("graph", [('!', '~')]), ("lower", [('a', 'z')]),
    ("print", [(' ', '~')]), ("punct", [('!', '/'), (':', '@'), ('[', '`'), ('\x7b', '~')]),
    ("space", [('\t', '\x0d'), (' ', ' ')]), ("upper", [('A', 'Z')]),
    ("xdigit", [('0', '9'), ('A', 'F'), ('a', 'f')])]

def namedClass? (cs : Octets) : Option (List (Char × Char) × Octets) :=
  namedClasses.findSome? fun (name, ranges) ↦
    (Text.dropPrefix? (':' :: name.toList ++ [':', ']']) cs).map (ranges, ·)

/-- The members of a class up to its closing bracket, which may be the first member. -/
def classMembers : Nat → List (Char × Char) → Octets → Option (List (Char × Char) × Octets)
  | 0, _, _ => none
  | n + 1, members, cs =>
    let more (members : List (Char × Char)) (rest : Octets) :=
      match rest with
      | ']' :: rest => some (members, rest)
      | rest => classMembers n members rest
    match cs with
    | [] => none
    | c :: rest =>
      match if c = '[' then namedClass? rest else none with
      | some (ranges, rest) => more (ranges ++ members) rest
      | none =>
        match if c = '\\' then rest else cs with
        | [] => none
        | low :: '-' :: d :: rest =>
          if d = ']' then more ((low, low) :: members) ('-' :: d :: rest)
          else if d = '\\' then more ((low, rest.headD d) :: members) rest.tail
          else more ((low, d) :: members) rest
        | c :: rest => more ((c, c) :: members) rest

def byteOf (c : Char) : UInt8 := c.toNat.toUInt8

def classOf? (cs : Octets) : Option (ByteSet × Octets) :=
  let (isComplement, body) := match cs with
    | '!' :: rest => (true, rest)
    | _ => (false, cs)
  (classMembers body.length [] body).map fun (members, rest) ↦
    (⟨members.map fun (a, b) ↦ (byteOf a, byteOf b), isComplement⟩, rest)

def patternParts : Nat → Octets → List Pattern
  | n + 1, c :: cs =>
    match c with
    | '*' => .anything :: patternParts n cs
    | '?' => .byte .all :: patternParts n cs
    | '[' =>
      match classOf? cs with
      | some (s, rest) => .byte s :: patternParts n rest
      | none => .byte (.single (byteOf c)) :: patternParts n cs
    | '\\' =>
      match cs with
      | d :: rest => .byte (.single (byteOf d)) :: patternParts n rest
      | [] => [.byte (.single (byteOf c))]
    | _ => .byte (.single (byteOf c)) :: patternParts n cs
  | _, _ => []

def patternOf (cs : Octets) : Pattern := .all (patternParts cs.length cs)

def matchesPattern (p : Pattern) (cs : Octets) : Bool := p.accepts (Text.Octets.bytes cs)

/-- A value without the part at one end that a pattern matches, the shortest or longest such. -/
def trimmed (atEnd longest : Bool) (p : Pattern) (value : Octets) : Octets :=
  let counts := List.range (value.length + 1)
  let counts := if longest then counts.reverse else counts
  if atEnd then
    match counts.find? fun n ↦ matchesPattern p (value.drop (value.length - n)) with
    | some n => value.take (value.length - n)
    | none => value
  else
    match counts.find? fun n ↦ matchesPattern p (value.take n) with
    | some n => value.drop n
    | none => value

def unescapePattern : Octets → Octets
  | '\\' :: c :: cs => c :: unescapePattern cs
  | c :: cs => c :: unescapePattern cs
  | [] => []

def isPattern : Octets → Bool
  | '\\' :: _ :: cs => isPattern cs
  | c :: cs => c == '*' || c == '?' || c == '[' || isPattern cs
  | [] => false

def pathOf (cs : Octets) : Path := ⟨Text.Octets.text cs⟩

/-- The paths that match the steps of a pattern below a text that ends a step. -/
def expandSteps (d : Disk) : List Octets → Octets → List Octets
  | [], base => if (d.resolve (pathOf base) false).isOk then [base] else []
  | step :: rest, base =>
    let next (name : Octets) : List Octets :=
      if rest.isEmpty then expandSteps d rest (base ++ name)
      else expandSteps d rest (base ++ name ++ ['/'])
    if isPattern step then
      let p := patternOf step
      let directory := if base.isEmpty then ⟨"."⟩ else pathOf base
      let names := (d.list directory).toOption.getD [] |>.map (Text.Octets.ofText ·.name)
      let names := if (unescapePattern step).head? = some '.' then ['.'] :: ['.', '.'] :: names
        else names.filter (·.head? ≠ some '.')
      (names.filter (matchesPattern p ·)).flatMap next
    else next (unescapePattern step)

def expandPaths (d : Disk) (pattern : Octets) : List Octets :=
  (expandSteps d (Text.cut '/' pattern) []).mergeSort fun a b ↦
    (compare (String.ofList a) (String.ofList b)).isLE

/-- The texts of a field: the paths that it matches, or else itself. -/
def Mark.texts (d : Disk) (expandsPaths : Bool) (field : List Mark) : List Octets :=
  let pattern := patternTextOf field
  if expandsPaths && isPattern pattern then
    match expandPaths d pattern with
    | [] => [textOf field]
    | paths => paths
  else [textOf field]

end Reactor.Shell
