import Reactor.Shell.Regex
import Reactor.Shell.Utility.Text

namespace Reactor.Shell

namespace Edit

inductive Address
  | line (n : Nat)
  | last
  /-- None asks for the expression used last. -/
  | matching (r : Option Regex) (foldsCase : Bool)
  | every (first step : Nat)
  | after (n : Nat)
  /-- The next line whose number is a multiple. -/
  | multiple (n : Nat)

inductive Casing
  | lower
  | upper
  | lowerOne
  | upperOne
  | none
  deriving DecidableEq

inductive Filling
  | text (cs : Octets)
  | group (n : Nat)
  | casing (c : Casing)

structure Substitution where
  pattern : Option Regex
  filling : List Filling
  foldsCase : Bool
  isGlobal : Bool
  prints : Bool
  count : Nat

inductive Action
  | substitute (s : Substitution)
  | change (pairs : List (Char × Char))
  | delete
  | deleteFirst
  | print
  | printFirst
  | next
  | appendNext
  | hold
  | holdMore
  | get
  | getMore
  | exchange
  | quit (status : Nat) (prints : Bool)
  | number
  | append (text : Octets)
  | insert (text : Octets)
  | replace (text : Octets)
  | branch (label : Octets)
  | branchIf (label : Octets)
  | branchUnless (label : Octets)
  | label (name : Octets)
  | opening
  | closing
  | clear

structure Instruction where
  first : Option Address
  second : Option Address
  isNegated : Bool
  action : Action

def hasMeaning (d : Char) (isRegex : Bool) : Bool :=
  if isRegex then "|+?()\x7b\x7d.*[]^$".toList.contains d else d == '&'

/-- Text up to a delimiter, which a backslash takes away; and what follows. -/
def delimited (d : Char) (isRegex : Bool) : Octets → Option (Octets × Octets)
  | [] => none
  | '\\' :: c :: cs =>
    (delimited d isRegex cs).map fun (t, rest) ↦
      (if c = d then if hasMeaning d isRegex then '\\' :: c :: t else c :: t
        else if c = 'n' ∧ isRegex then '\n' :: t else '\\' :: c :: t, rest)
  | c :: cs =>
    if c = d then some ([], cs)
    else (delimited d isRegex cs).map fun (t, rest) ↦ (c :: t, rest)

def delimitedRegex (d : Char) : Nat → Octets → Option (Octets × Octets)
  | 0, _ => none
  | _ + 1, [] => none
  | n + 1, '\\' :: c :: cs =>
    (delimitedRegex d n cs).map fun (t, rest) ↦
      (if c = d then (if "|+?(){}.*[]^$".toList.contains d then '\\' :: c :: t else c :: t)
        else '\\' :: c :: t, rest)
  | n + 1, '[' :: cs =>
    match RegexReader.bracket? cs with
    | some (_, rest) =>
      let inside := cs.take (cs.length - rest.length)
      (delimitedRegex d n rest).map fun (t, rest) ↦ ('[' :: inside ++ t, rest)
    | none => (delimitedRegex d n cs).map fun (t, rest) ↦ ('[' :: t, rest)
  | n + 1, c :: cs =>
    if c = d then some ([], cs) else (delimitedRegex d n cs).map fun (t, rest) ↦ (c :: t, rest)

def regexUpTo (d : Char) (cs : Octets) : Option (Octets × Octets) :=
  delimitedRegex d (cs.length + 1) cs

def putText (c : Char) : List Filling → List Filling
  | .text t :: rest => .text (c :: t) :: rest
  | rest => .text [c] :: rest

def fillings : Octets → List Filling
  | [] => []
  | '&' :: cs => .group 0 :: fillings cs
  | '\\' :: c :: cs =>
    if c.isDigit then .group (c.toNat - 48) :: fillings cs
    else
      match c with
      | 'n' => putText '\n' (fillings cs)
      | 't' => putText '\t' (fillings cs)
      | 'L' => .casing .lower :: fillings cs
      | 'U' => .casing .upper :: fillings cs
      | 'l' => .casing .lowerOne :: fillings cs
      | 'u' => .casing .upperOne :: fillings cs
      | 'E' => .casing .none :: fillings cs
      | _ => putText c (fillings cs)
  | c :: cs => putText c (fillings cs)

def highestGroup (fs : List Filling) : Nat :=
  fs.foldl (fun n f ↦ match f with
    | .group k => max n k
    | _ => n) 0

def pattern? (isExtended : Bool) (cs : Octets) : Option (Option Regex × Nat) :=
  if cs.isEmpty then some (none, 9)
  else (RegexReader.read? isExtended cs).map fun (r, k) ↦ (some r, k)

def skipBlanks (cs : Octets) : Octets := cs.dropWhile fun c ↦ c == ' ' || c == '\t'

def address? (isExtended : Bool) (cs : Octets) : Option (Option Address × Octets) :=
  let regex (d : Char) (cs : Octets) : Option (Option Address × Octets) := do
    let (text, rest) ← regexUpTo d cs
    let (r, _) ← pattern? isExtended text
    let (folds, rest) := match rest with
      | 'I' :: rest => (true, rest)
      | rest => (false, rest)
    return (some (.matching r folds), rest)
  match cs with
  | '$' :: rest => some (some .last, rest)
  | '/' :: rest => regex '/' rest
  | '\\' :: d :: rest => regex d rest
  | '+' :: rest =>
    let digits := rest.takeWhile Char.isDigit
    (natural? digits).map fun n ↦ (some (.after n), rest.drop digits.length)
  | '~' :: rest =>
    let digits := rest.takeWhile Char.isDigit
    (natural? digits).map fun n ↦ (some (.multiple n), rest.drop digits.length)
  | _ =>
    let digits := cs.takeWhile Char.isDigit
    match natural? digits, cs.drop digits.length with
    | none, _ => some (none, cs)
    | some n, '~' :: rest =>
      let step := rest.takeWhile Char.isDigit
      (natural? step).map fun k ↦ (some (.every n k), rest.drop step.length)
    | some n, rest => some (some (.line n), rest)

/-- The text after `a`, `i` or `c`, up to a line end that no backslash takes away. -/
def argumentText : Octets → Octets × Octets
  | [] => ([], [])
  | '\\' :: c :: cs =>
    let (t, rest) := argumentText cs
    (c :: t, rest)
  | '\n' :: cs => ([], cs)
  | c :: cs =>
    let (t, rest) := argumentText cs
    (c :: t, rest)

def commandText (cs : Octets) : Octets × Octets :=
  let cs := skipBlanks cs
  match cs with
  | '\\' :: rest =>
    match skipBlanks rest with
    | '\n' :: body => argumentText body
    | _ => argumentText rest
  | _ => argumentText cs

def labelText (cs : Octets) : Octets × Octets :=
  let cs := skipBlanks cs
  (cs.takeWhile fun c ↦ !(c == '\n' || c == ';' || c == ' ' || c == '\x7d'),
    cs.dropWhile fun c ↦ !(c == '\n' || c == ';' || c == ' ' || c == '\x7d'))

def substitutionFlags : Nat → Substitution → Octets → Option (Substitution × Octets)
  | 0, _, _ => none
  | n + 1, s, cs =>
    match cs with
    | 'g' :: rest => substitutionFlags n { s with isGlobal := true } rest
    | 'p' :: rest => substitutionFlags n { s with prints := true } rest
    | 'i' :: rest | 'I' :: rest => substitutionFlags n { s with foldsCase := true } rest
    | 'm' :: rest | 'M' :: rest => substitutionFlags n s rest
    | c :: _ =>
      if c.isDigit then
        let digits := cs.takeWhile Char.isDigit
        match natural? digits with
        | some (k + 1) => substitutionFlags n { s with count := k + 1 } (cs.drop digits.length)
        | _ => none
      else some (s, cs)
    | [] => some (s, [])

/-- What must follow a command: a line end, a semicolon, a closing brace or a comment. -/
def commandEnd? (cs : Octets) : Option Octets :=
  match skipBlanks cs with
  | [] => some []
  | ';' :: rest | '\n' :: rest => some rest
  | '\x7d' :: rest => some ('\x7d' :: rest)
  | '#' :: rest => some (rest.dropWhile (· != '\n'))
  | _ => none

def action? (isExtended : Bool) (c : Char) (cs : Octets) : Option (Action × Octets) :=
  let plain (a : Action) : Option (Action × Octets) := (commandEnd? cs).map (a, ·)
  let labelled (f : Octets → Action) : Option (Action × Octets) :=
    let (name, rest) := labelText cs
    (commandEnd? rest).map (f name, ·)
  let quit (prints : Bool) : Option (Action × Octets) :=
    let cs := skipBlanks cs
    let digits := cs.takeWhile Char.isDigit
    (commandEnd? (cs.drop digits.length)).map (.quit ((natural? digits).getD 0) prints, ·)
  let texts (f : Octets → Action) : Option (Action × Octets) :=
    let (text, rest) := commandText cs
    if (skipBlanks cs).isEmpty then none else some (f (text ++ ['\n']), rest)
  match c with
  | 's' => do
    let d :: rest := cs | none
    if d = '\n' ∨ d = '\\' then none
    let (text, rest) ← regexUpTo d rest
    let (filling, rest) ← delimited d false rest
    let (r, groups) ← pattern? isExtended text
    let fs := fillings filling
    if groups < highestGroup fs then none
    let (s, rest) ← substitutionFlags (rest.length + 1) ⟨r, fs, false, false, false, 1⟩ rest
    return (.substitute s, ← commandEnd? rest)
  | 'y' => do
    let d :: rest := cs | none
    let (a, rest) ← delimited d false rest
    let (b, rest) ← delimited d false rest
    let tidy (cs : Octets) : Octets := Text.Octets.ofBytes [] ++ (unescaped cs).1
    let (a, b) := (tidy a, tidy b)
    if a.length ≠ b.length then none
    return (.change (a.zip b), ← commandEnd? rest)
  | 'd' => plain .delete
  | 'D' => plain .deleteFirst
  | 'p' => plain .print
  | 'P' => plain .printFirst
  | 'n' => plain .next
  | 'N' => plain .appendNext
  | 'h' => plain .hold
  | 'H' => plain .holdMore
  | 'g' => plain .get
  | 'G' => plain .getMore
  | 'x' => plain .exchange
  | 'z' => plain .clear
  | '=' => plain .number
  | 'q' => quit true
  | 'Q' => quit false
  | 'a' => texts .append
  | 'i' => texts .insert
  | 'c' => texts .replace
  | 'b' => labelled .branch
  | 't' => labelled .branchIf
  | 'T' => labelled .branchUnless
  | ':' => labelled .label
  | '\x7b' => some (.opening, cs)
  | '\x7d' => (commandEnd? cs).map (.closing, ·)
  | _ => none

def instructions? (isExtended : Bool) : Nat → Octets → Option (List Instruction)
  | 0, _ => none
  | n + 1, cs =>
    match cs.dropWhile fun c ↦ Arithmetic.isSpace c || c == ';' with
    | [] => some []
    | '#' :: rest => instructions? isExtended n (rest.dropWhile (· != '\n'))
    | cs => do
      let (first, rest) ← address? isExtended cs
      let (second, rest) ← match first, skipBlanks rest with
        | some _, ',' :: rest =>
          let (second, rest) ← address? isExtended (skipBlanks rest)
          if second.isNone then none else some (second, rest)
        | _, rest => some (none, rest)
      let rest := skipBlanks rest
      let isNegated := rest.head? == some '!'
      let rest := skipBlanks (rest.dropWhile (· == '!'))
      let c :: rest := rest | none
      let (action, rest) ← action? isExtended c rest
      let more ← instructions? isExtended n rest
      return ⟨first, second, isNegated, action⟩ :: more

structure Session where
  space : Octets
  /-- The line at hand ends in a line end. -/
  isEnded : Bool
  held : Octets
  line : Nat
  input : List (Octets × Bool)
  output : List Octets
  queue : List Octets
  isReplaced : Bool
  ranges : List (Nat × Option Nat)
  lastPattern : Option Regex
  status : Option Nat

namespace Session

variable (s : Session)

def put (cs : Octets) : Session := { s with output := cs :: s.output }

def putLine (cs : Octets) : Session := s.put (cs ++ if s.isEnded then ['\n'] else [])

def flush : Session := { s with output := s.queue.reverse ++ s.output, queue := [] }

def advance : Option Session :=
  match s.input with
  | (l, isEnded) :: rest =>
    some { s with space := l, isEnded := isEnded, line := s.line + 1, input := rest }
  | [] => none

def isLast : Bool := s.input.isEmpty

def isAt (a : Address) : Bool × Session :=
  match a with
  | .line n => (s.line == n, s)
  | .last => (s.isLast, s)
  | .every first step =>
    (if step = 0 then s.line == first else first ≤ s.line && (s.line - first) % step == 0, s)
  | .matching r folds =>
    match r.or s.lastPattern with
    | some r =>
      ((Regex.find? ⟨s.space.toArray, folds⟩ r 0).isSome, { s with lastPattern := some r })
    | none => (false, s)
  | .after _ | .multiple _ => (false, s)

def rangeEnd (a : Address) : Option Nat :=
  match a with
  | .line n => some n
  | .after n => some (s.line + n)
  | .multiple n => some (if n = 0 then s.line else (s.line + n - 1) / n * n)
  | _ => none

def selects (index : Nat) (i : Instruction) : Bool × Session :=
  match i.first, i.second with
  | none, _ => (true, s)
  | some a, none => s.isAt a
  | some a, some b =>
    let close (s : Session) : Session := { s with ranges := s.ranges.filter (·.1 != index) }
    match s.ranges.lookup index with
    | some (some n) =>
      if s.line < n then (true, s) else (s.line == n, close s)
    | some none =>
      let (found, s) := s.isAt b
      (true, if found then close s else s)
    | none =>
      let isZero := match a with
        | .line 0 => s.line == 1
        | _ => false
      let (found, s) := s.isAt a
      if isZero then
        let (ends, s) := s.isAt b
        (true, if ends then s else { s with ranges := (index, none) :: s.ranges })
      else if found then
        match s.rangeEnd b with
        | some n =>
          (true, if n ≤ s.line then s else { s with ranges := (index, some n) :: s.ranges })
        | none =>
          match b with
          | .last => (true, if s.isLast then s else { s with ranges := (index, none) :: s.ranges })
          | _ => (true, { s with ranges := (index, none) :: s.ranges })
      else (false, s)

end Session

def cased (one all : Casing) (cs : Octets) : Octets :=
  let base := match all with
    | .lower => cs.map Regex.toLower
    | .upper => cs.map Regex.toUpper
    | _ => cs
  match one, base with
  | .lowerOne, c :: cs => Regex.toLower c :: cs
  | .upperOne, c :: cs => Regex.toUpper c :: cs
  | _, cs => cs

def fill (text : Array Char) (start : Nat) (p : Regex.Progress) :
    Casing → Casing → List Filling → Octets
  | _, _, [] => []
  | one, all, f :: fs =>
    let slice (a b : Nat) : Octets := (text.toList.drop a).take (b - a)
    let put (cs : Octets) : Octets :=
      cased one all cs ++ fill text start p (if cs.isEmpty then one else .none) all fs
    match f with
    | .text cs => put cs
    | .group 0 => put (slice start p.position)
    | .group k =>
      match p.groups.lookup k with
      | some (a, b) => put (slice a b)
      | none => put []
    | .casing .lowerOne => fill text start p .lowerOne all fs
    | .casing .upperOne => fill text start p .upperOne all fs
    | .casing c => fill text start p .none c fs

/-- Replaces matches from a position on; `seen` counts those before. An empty match right after
another does not count. -/
def replaceFrom (sub : Substitution) (r : Regex) (t : Regex.Subject) :
    Nat → Nat → Nat → Option Nat → Option Octets
  | 0, _, _, _ => none
  | n + 1, i, seen, lastEnd =>
    match Regex.find? t r i with
    | none => none
    | some (a, p) =>
      let skipped : Octets := (t.text.toList.drop i).take (a - i)
      let isHollow := p.position = a ∧ lastEnd = some a
      let rest (from_ : Nat) : Octets := t.text.toList.drop from_
      let step : Octets := (t.text[p.position]?).toList
      if isHollow then
        if a < t.text.size then
          (replaceFrom sub r t n (a + 1) seen none).map fun cs ↦ skipped ++ step ++ cs
        else none
      else if seen + 1 < sub.count then
        let matched : Octets := (t.text.toList.drop a).take (p.position - a)
        if p.position = a then
          if a < t.text.size then
            (replaceFrom sub r t n (a + 1) (seen + 1) none).map fun cs ↦ skipped ++ step ++ cs
          else none
        else
          (replaceFrom sub r t n p.position (seen + 1) (some p.position)).map fun cs ↦
            skipped ++ matched ++ cs
      else
        let new := fill t.text a p .none .none sub.filling
        if !sub.isGlobal then some (skipped ++ new ++ rest p.position)
        else if p.position = a then
          if a < t.text.size then
            some (skipped ++ new ++ step
              ++ (replaceFrom sub r t n (a + 1) (seen + 1) none).getD (rest (a + 1)))
          else some (skipped ++ new)
        else
          some (skipped ++ new
            ++ (replaceFrom sub r t n p.position (seen + 1) (some p.position)).getD
              (rest p.position))

inductive Outcome
  | done (prints : Bool) (s : Session)
  | again (s : Session)
  | quit (prints : Bool) (s : Session)

def isLabel (name : Octets) (i : Instruction) : Bool :=
  match i.action with
  | .label n => n == name
  | _ => false

def afterBlock : Nat → List Instruction → Nat → Nat
  | _, [], k => k
  | depth, i :: is, k =>
    match i.action with
    | .opening => afterBlock (depth + 1) is (k + 1)
    | .closing =>
      match depth with
      | 0 => k + 1
      | depth + 1 => afterBlock depth is (k + 1)
    | _ => afterBlock depth is (k + 1)

def runFrom (is : Array Instruction) (quiet : Bool) : Nat → Nat → Session → Outcome
  | 0, _, s => .quit false s
  | n + 1, k, s =>
    match is[k]? with
    | none => .done (!quiet) s
    | some i =>
      let (found, s) := s.selects k i
      let goOn := runFrom is quiet n (k + 1)
      let jump (name : Octets) (s : Session) : Outcome :=
        if name.isEmpty then .done (!quiet) s
        else
          match is.toList.findIdx? (isLabel name) with
          | some j => runFrom is quiet n j s
          | none => .done (!quiet) s
      if found == i.isNegated then
        match i.action with
        | .opening => runFrom is quiet n (afterBlock 0 (is.toList.drop (k + 1)) (k + 1)) s
        | _ => goOn s
      else
        match i.action with
        | .opening | .closing | .label _ => goOn s
        | .substitute sub =>
          match sub.pattern.or s.lastPattern with
          | none => goOn s
          | some r =>
            let t : Regex.Subject := ⟨s.space.toArray, sub.foldsCase⟩
            let s := { s with lastPattern := some r }
            match replaceFrom sub r t (2 * s.space.length + 4) 0 0 none with
            | none => goOn s
            | some text =>
              let s := { s with space := text, isReplaced := true }
              goOn (if sub.prints then s.put (text ++ ['\n']) else s)
        | .change pairs =>
          goOn { s with space := s.space.map fun c ↦ (pairs.lookup c).getD c }
        | .delete => .done false s
        | .deleteFirst =>
          if s.space.contains '\n' then
            .again { s with space := (s.space.dropWhile (· != '\n')).drop 1 }
          else .done false s
        | .print => goOn (s.put (s.space ++ ['\n']))
        | .printFirst => goOn (s.put (s.space.takeWhile (· != '\n') ++ ['\n']))
        | .next =>
          if s.isLast then .quit (!quiet) s
          else
            let s := (if quiet then s else s.putLine s.space).flush
            goOn (s.advance.getD s)
        | .appendNext =>
          if s.isLast then .quit (!quiet) s
          else
            let before := s.space
            let s := s.flush
            let s := s.advance.getD s
            goOn { s with space := before ++ '\n' :: s.space }
        | .hold => goOn { s with held := s.space }
        | .holdMore => goOn { s with held := s.held ++ '\n' :: s.space }
        | .get => goOn { s with space := s.held }
        | .getMore => goOn { s with space := s.space ++ '\n' :: s.held }
        | .exchange => goOn { s with space := s.held, held := s.space }
        | .clear => goOn { s with space := [] }
        | .quit status prints => .quit (prints && !quiet) { s with status := some status }
        | .number => goOn (s.put ((toString s.line).toList ++ ['\n']))
        | .append text => goOn { s with queue := s.queue ++ [text] }
        | .insert text => goOn (s.put text)
        | .replace text =>
          let isInside := i.second.isSome && (s.ranges.lookup k).isSome && !i.isNegated
          .done false (if isInside then s else s.put text)
        | .branch name => jump name s
        | .branchIf name =>
          if s.isReplaced then jump name { s with isReplaced := false } else goOn s
        | .branchUnless name =>
          if s.isReplaced then goOn { s with isReplaced := false } else jump name s

def stepLimit : Nat := 20000

def run (is : Array Instruction) (quiet : Bool) : Nat → Session → Session
  | 0, s => s
  | n + 1, s =>
    let finish (prints : Bool) (s : Session) : Session :=
      (if prints then s.putLine s.space else s).flush
    match runFrom is quiet stepLimit 0 s with
    | .quit prints s => { finish prints s with input := [] }
    | .again s => run is quiet n s.flush
    | .done prints s =>
      let s := finish prints s
      match s.advance with
      | some s => run is quiet n { s with isReplaced := false }
      | none => s

def edited (is : List Instruction) (quiet : Bool) (text : Octets) : Octets × Option Nat :=
  let start : Session := ⟨[], true, [], 0, linesOf text, [], [], false, [], none, none⟩
  match start.advance with
  | none => ([], none)
  | some s =>
    let s := run is.toArray quiet (4 * text.length + 4) s
    (s.output.reverse.flatten, s.status)

end Edit

namespace Utility

open Run

/-- Operands first give the script, unless options do. -/
def sed : Utility :=
  withOptions { flags := "nErsiuzb", valued := "efl", long := [("quiet", 'n'), ("silent", 'n'),
      ("expression", 'e'), ("file", 'f'), ("regexp-extended", 'E'), ("in-place", 'i'),
      ("separate", 's'), ("null-data", 'z')] } 1 fun o ↦ do
    let parts ← o.given.filterMapM fun (c, v) ↦ do
      if c = 'e' then return some (some v)
      else if c = 'f' then
        return some ((← inputOf? v).map fun t ↦ if t.getLast? = some '\n' then t.dropLast else t)
      else return none
    let (scripts, operands) := if parts.isEmpty then ([o.operands.head?], o.operands.tail)
      else (parts, o.operands)
    match scripts.mapM id with
    | none => setStatus 1
    | some scripts =>
      let script : Octets := ['\n'].intercalate scripts
      let isExtended := o.has 'E' || o.has 'r'
      match Edit.instructions? isExtended (script.length + 2) script with
      | none => setStatus 1
      | some is =>
        let quiet := o.has 'n' || script.take 3 == ['#', 'n', '\n']
        if o.has 'i' then
          setStatus 0
          for file in operands do
            match ← inputOf? file with
            | none => setStatus 4
            | some text =>
              let (result, status) := Edit.edited is quiet text
              match ← openFile file .writes with
              | .ok id =>
                let before ← descriptorId? 1
                setDescriptor 1 (some id)
                emit result
                setDescriptor 1 before
              | .error _ => setStatus 4
              if let some n := status then setStatus n
        else
          let mut texts : List Octets := []
          let mut refused := 0
          for operand in (if operands.isEmpty then [['-']] else operands) do
            match ← inputOf? operand with
            | some text => texts := texts ++ [text]
            | none => refused := 2
          let parts := if o.has 's' then texts else
            [(texts.zipIdx.map fun (t, k) ↦
              if k + 1 < texts.length && t.getLast?.any (· != '\n') then t ++ ['\n']
              else t).flatten]
          setStatus refused
          for text in parts do
            let (result, status) := Edit.edited is quiet text
            emit result
            if let some n := status then setStatus n

end Utility

end Reactor.Shell
