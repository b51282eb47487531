import Reactor.Shell.Script
import Reactor.Text.Blank

namespace Reactor.Shell

structure Waiting where
  number : Nat
  delimiter : Octets
  stripsTabs : Bool
  isFixed : Bool

structure Input where
  rest : Octets
  waiting : List Waiting
  documents : List (Nat × Word)
  next : Nat

abbrev Reader := StateT Input Option

/-- Where a stretch of a word stands: bare, in double quotes, in a document, in an arithmetic
expression, or between the braces of a parameter, quoted or not. -/
inductive Quoting
  | bare
  | double
  | here
  | arithmetic
  | brace (isQuoted : Bool)
  deriving DecidableEq

def Quoting.isQuoted : Quoting → Bool
  | bare => false
  | double | here | arithmetic => true
  | brace q => q

def endsWord (c : Char) : Bool := " \t\n;&|<>()".toList.contains c

def Quoting.ends (q : Quoting) (c : Char) : Bool :=
  match q with
  | bare => endsWord c
  | double => c == '"'
  | here | arithmetic => false
  | brace _ => c == '\x7d'

def Quoting.escapes (q : Quoting) (c : Char) : Bool :=
  match q with
  | bare | brace false => true
  | double | arithmetic => "$`\"\\".toList.contains c
  | here => "$`\\".toList.contains c
  | brace true => "$`\"\\\x7d".toList.contains c

/-- The text of a command between back quotes, whose inner backslashes are taken off. -/
def backQuoted (isQuoted : Bool) : Octets → Option (Octets × Octets)
  | [] => none
  | '`' :: cs => some ([], cs)
  | '\\' :: '\n' :: cs => backQuoted isQuoted cs
  | '\\' :: c :: cs =>
    (backQuoted isQuoted cs).map fun (t, rest) ↦
      (if c == '`' || c == '\\' || c == '$' || (isQuoted && c == '"') then c :: t
        else '\\' :: c :: t, rest)
  | c :: cs => (backQuoted isQuoted cs).map fun (t, rest) ↦ (c :: t, rest)

def documentLines (w : Waiting) : List Octets → List Octets × List Octets
  | [] => ([], [])
  | line :: rest =>
    let line := if w.stripsTabs then line.dropWhile (· == '\t') else line
    if line = w.delimiter then ([], rest)
    else
      let (body, rest) := documentLines w rest
      (line :: body, rest)

def takeDocument (w : Waiting) (cs : Octets) : Octets × Octets :=
  let pieces := Text.cut '\n' cs
  let (body, rest) := documentLines w pieces
  let isOpen := pieces.length == body.length
  let text := ['\n'].intercalate body ++ (if isOpen then [] else ['\n'])
  (if body.isEmpty then [] else text, ['\n'].intercalate rest)

def fixedText (w : Word) : Option Octets :=
  (w.mapM fun
    | Piece.text s _ => some s
    | .home user => some ('~' :: user)
    | _ => none).map List.flatten

def isQuotedText : Piece → Bool
  | .text _ q => q
  | _ => false

def parameterName? (cs : Octets) : Option (String × Octets) :=
  match cs with
  | c :: rest =>
    if isNameStart c then
      some (String.ofList (cs.takeWhile isNameChar), cs.dropWhile isNameChar)
    else if c.isDigit then
      some (String.ofList (cs.takeWhile Char.isDigit), cs.dropWhile Char.isDigit)
    else if "@*#?$!-".toList.contains c then some (String.singleton c, rest)
    else none
  | [] => none

def isBare (c : Char) : Piece → Bool
  | .text [d] false => c == d
  | _ => false

def userName (ends : List Char) : Word → Octets × Word
  | .text [c] false :: rest =>
    if c = '/' ∨ c ∈ ends then ([], .text [c] false :: rest)
    else
      let (user, rest) := userName ends rest
      (c :: user, rest)
  | w => ([], w)

def withHome (ends : List Char) (w : Word) : Word :=
  match w with
  | .text ['~'] false :: rest =>
    match userName ends rest with
    | (user, []) => [.home user]
    | (user, .text [c] false :: rest) =>
      if c = '/' ∨ c ∈ ends then .home user :: .text [c] false :: rest else w
    | _ => w
  | _ => w

/-- Reads tildes in an assigned word, where one may follow each colon. -/
def withHomes : Nat → Word → Word
  | 0, w => w
  | n + 1, w =>
    let w := withHome [':'] w
    match w.span (!isBare ':' ·) with
    | (before, colon :: rest) => before ++ colon :: withHomes n rest
    | (before, []) => before

def reservedWords : List String :=
  ["!", "case", "do", "done", "elif", "else", "esac", "fi", "for", "if", "in", "then", "until",
    "while", "\x7b", "\x7d"]

def stopWords : List String := ["then", "else", "elif", "fi", "do", "done", "esac", "\x7d"]

def specialCommands : List String :=
  [".", ":", "break", "continue", "eval", "exec", "exit", "export", "readonly", "return", "set",
    "shift", "times", "trap", "unset"]

def skipBlankOctets : Octets → Octets
  | '\\' :: '\n' :: cs => skipBlankOctets cs
  | ' ' :: cs | '\t' :: cs => skipBlankOctets cs
  | '#' :: cs => cs.dropWhile (· != '\n')
  | cs => cs

def plainWord (cs : Octets) : String := String.ofList (cs.takeWhile fun c ↦ !endsWord c)

namespace Reader

def peek : Reader Octets := return (← get).rest

def setRest (cs : Octets) : Reader Unit := modify fun i ↦ { i with rest := cs }

def skipBlanks : Reader Octets := do
  let cs := skipBlankOctets (← peek)
  setRest cs
  return cs

def take (c : Char) : Reader Unit := do
  match ← peek with
  | d :: rest => if c = d then setRest rest else failure
  | [] => failure

def word? (word : String) : Reader Bool := do
  let cs ← skipBlanks
  if plainWord cs = word then
    setRest (cs.drop word.length)
    return true
  else return false

def word (s : String) : Reader Unit := do if !(← word? s) then failure

def aside {α : Type} (cs : Octets) (r : Reader α) : Reader α := do
  let i ← get
  set { i with rest := cs, waiting := [] }
  let a ← r
  let j ← get
  if !j.rest.isEmpty then failure
  set { j with rest := i.rest, waiting := i.waiting }
  return a

end Reader

open Reader

mutual

/-- The pieces of a word up to its end, which is left. In an arithmetic expression `depth` counts
the open brackets. -/
def pieces : Nat → Quoting → Nat → Reader Word
  | 0, _, _ => failure
  | n + 1, q, depth => do
    let more (p : Word) (depth : Nat) : Reader Word := return p ++ (← pieces n q depth)
    let plain (c : Char) (rest : Octets) : Reader Word := do
      setRest rest
      more [.text [c] q.isQuoted] depth
    match ← peek with
    | [] => if q = .bare ∨ q = .here then return [] else failure
    | c :: rest =>
      if q.ends c then return []
      else if c = '\\' then
        match rest with
        | [] => plain c []
        | '\n' :: rest =>
          setRest rest
          more [] depth
        | d :: rest' =>
          if q.escapes d then
            setRest rest'
            more [.text [d] true] depth
          else plain c rest
      else if c = '\'' ∧ !q.isQuoted then
        let body := rest.takeWhile (· != '\'')
        setRest (rest.dropWhile (· != '\''))
        take '\''
        more [.text [] true, .text body true] depth
      else if c = '"' ∧ q = .arithmetic then
        setRest rest
        more [] depth
      else if c = '"' ∧ q ≠ .here then
        setRest rest
        let w ← pieces n .double 0
        take '"'
        match w with
        | [.parameter "@" .plain true] => more w depth
        | _ => more (.text [] true :: w) depth
      else if c = '`' then
        let (body, rest) ← (backQuoted q.isQuoted rest : Option _)
        setRest rest
        let script ← aside body (commands n false)
        more [.output script q.isQuoted] depth
      else if c = '$' then
        setRest rest
        more [← dollar n q.isQuoted] depth
      else if q = .arithmetic ∧ c = '(' then
        setRest rest
        return .text [c] true :: (← pieces n q (depth + 1))
      else if q = .arithmetic ∧ c = ')' then
        match depth, rest with
        | 0, ')' :: rest =>
          setRest rest
          return []
        | 0, _ => failure
        | depth + 1, _ =>
          setRest rest
          return .text [c] true :: (← pieces n q depth)
      else plain c rest

def dollar : Nat → Bool → Reader Piece
  | 0, _ => failure
  | n + 1, isQuoted => do
    let cs ← peek
    match cs with
    | '\x7b' :: '#' :: '\x7d' :: rest =>
      setRest rest
      return .parameter "#" .plain isQuoted
    | '\x7b' :: '#' :: rest =>
      match parameterName? rest with
      | some (name, '\x7d' :: rest) =>
        setRest rest
        return .parameter name .length isQuoted
      | _ =>
        setRest ('#' :: rest)
        parameter n isQuoted
    | '\x7b' :: rest =>
      setRest rest
      parameter n isQuoted
    | '(' :: '(' :: rest =>
      setRest rest
      return .arithmetic (← pieces n .arithmetic 0) isQuoted
    | '(' :: rest =>
      setRest rest
      let waiting := (← get).waiting
      modify ({ · with waiting := [] })
      let script ← commands n false
      take ')'
      documents n
      modify ({ · with waiting := waiting })
      return .output script isQuoted
    | c :: rest =>
      if c.isDigit then
        setRest rest
        return .parameter (String.singleton c) .plain isQuoted
      else
        match parameterName? cs with
        | some (name, rest) =>
          setRest rest
          return .parameter name .plain isQuoted
        | none => return .text ['$'] isQuoted
    | [] => return .text ['$'] isQuoted

def parameter : Nat → Bool → Reader Piece
  | 0, _ => failure
  | n + 1, isQuoted => do
    match parameterName? (← peek) with
    | some (name, rest) =>
      setRest rest
      return .parameter name (← use n isQuoted) isQuoted
    | none =>
      let _ ← pieces n (.brace isQuoted) 0
      take '\x7d'
      return .parameter "" .senseless isQuoted

def use : Nat → Bool → Reader Use
  | 0, _ => failure
  | n + 1, isQuoted => do
    let word (f : Word → Use) (q : Quoting) (rest : Octets) : Reader Use := do
      setRest rest
      let w ← pieces n q 0
      take '\x7d'
      return f (if q.isQuoted then w else withHome ['\x7d'] w)
    let value (f : Word → Use) (rest : Octets) := word f (.brace isQuoted) rest
    let pattern (f : Word → Use) (rest : Octets) := word f (.brace false) rest
    match ← peek with
    | '\x7d' :: rest | ':' :: '\x7d' :: rest =>
      setRest rest
      return .plain
    | '#' :: '#' :: rest => pattern (.trim false true) rest
    | '#' :: rest => pattern (.trim false false) rest
    | '%' :: '%' :: rest => pattern (.trim true true) rest
    | '%' :: rest => pattern (.trim true false) rest
    | ':' :: '-' :: rest => value (.orElse true) rest
    | '-' :: rest => value (.orElse false) rest
    | ':' :: '=' :: rest => value (.assign true) rest
    | '=' :: rest => value (.assign false) rest
    | ':' :: '+' :: rest => value (.ifSet true) rest
    | '+' :: rest => value (.ifSet false) rest
    | ':' :: '?' :: rest => value (.demand true) rest
    | '?' :: rest => value (.demand false) rest
    | rest => value (fun _ ↦ .senseless) rest

def lineEnd : Nat → Reader Unit
  | 0 => failure
  | n + 1 => do
    match ← peek with
    | '\n' :: rest =>
      setRest rest
      documents n
    | _ => documents n

def documents : Nat → Reader Unit
  | 0 => failure
  | n + 1 => do
    match (← get).waiting with
    | [] => return
    | w :: waiting =>
      let (body, rest) := takeDocument w (← peek)
      modify fun i ↦ { i with rest := body, waiting := [] }
      let text ← if w.isFixed then pure [.text body true] else pieces n .here 0
      modify fun i ↦
        { i with rest := rest, waiting := waiting, documents := (w.number, text) :: i.documents }
      documents n

def skipLines : Nat → Reader Unit
  | 0 => failure
  | n + 1 => do
    match ← skipBlanks with
    | '\n' :: _ =>
      lineEnd n
      skipLines n
    | _ => return

def nextWord : Nat → Reader Word
  | 0 => failure
  | n + 1 => do
    let cs ← skipBlanks
    let w ← pieces n .bare 0
    if (← peek).length < cs.length then return withHome [] w else failure

def redirection? : Nat → Reader (Option Redirection)
  | 0 => failure
  | n + 1 => do
    let cs ← skipBlanks
    let (descriptor?, operator) : Option Nat × Octets := match cs with
      | c :: d :: rest =>
        if c.isDigit && (d == '<' || d == '>') then (some (c.toNat - 48), d :: rest) else (none, cs)
      | _ => (none, cs)
    let input := descriptor?.getD 0
    let output := descriptor?.getD 1
    let file (rest : Octets) (f : Word → Redirection) : Reader (Option Redirection) := do
      setRest rest
      return some (f (← nextWord n))
    let same (descriptor : Nat) (rest : Octets) : Reader (Option Redirection) := do
      setRest rest
      let w ← nextWord n
      match fixedText w with
      | some [c] => if c.isDigit || c == '-' then return some (.same descriptor w) else failure
      | some _ => failure
      | none => return some (.same descriptor w)
    let document (stripsTabs : Bool) (rest : Octets) : Reader (Option Redirection) := do
      setRest rest
      let w ← nextWord n
      let delimiter ← (fixedText w : Option _)
      let number := (← get).next
      modify fun i ↦
        { i with
          next := number + 1
          waiting := i.waiting ++ [⟨number, delimiter, stripsTabs, w.any isQuotedText⟩] }
      return some (.here input number)
    match operator with
    | '<' :: '<' :: '-' :: rest => document true rest
    | '<' :: '<' :: rest => document false rest
    | '<' :: '&' :: rest => same input rest
    | '<' :: '>' :: rest => file rest (.both input)
    | '<' :: rest => file rest (.input input)
    | '>' :: '>' :: rest => file rest (.output output · true)
    | '>' :: '&' :: rest => same output rest
    | '>' :: '|' :: rest | '>' :: rest => file rest (.output output · false)
    | _ => return none

def redirections : Nat → Reader (List Redirection)
  | 0 => failure
  | n + 1 => do
    match ← redirection? n with
    | none => return []
    | some r => return r :: (← redirections n)

def simple : Nat → List (String × Word) → List Word → List Redirection → Reader Command
  | 0, _, _, _ => failure
  | n + 1, as, ws, rs => do
    match ← redirection? n with
    | some r => simple n as ws (rs ++ [r])
    | none =>
      let cs ← skipBlanks
      let name := cs.takeWhile isNameChar
      match ws.isEmpty && isName name, cs.drop name.length with
      | true, '=' :: value =>
        setRest value
        let w ← pieces n .bare 0
        simple n (as ++ [(String.ofList name, withHomes (w.length + 1) w)]) ws rs
      | _, _ =>
        match cs with
        | '(' :: rest =>
          match as, ws, rs with
          | [], [w], [] =>
            setRest rest
            let _ ← skipBlanks
            take ')'
            let name ← (fixedText w : Option _)
            if !isName name || w.any isQuotedText
                || specialCommands.contains (String.ofList name) then failure
            skipLines n
            return .define (String.ofList name) (← command n)
          | _, _, _ => failure
        | [] => finishSimple as ws rs
        | c :: _ =>
          if endsWord c then finishSimple as ws rs
          else simple n as (ws ++ [← nextWord n]) rs

def finishSimple (as : List (String × Word)) (ws : List Word) (rs : List Redirection) :
    Reader Command :=
  match as, ws, rs with
  | [], [], [] => failure
  | _, _, _ => return .simple as ws rs

def command : Nat → Reader Command
  | 0 => failure
  | n + 1 => do
    let cs ← skipBlanks
    let redirected (c : Command) : Reader Command := do
      match ← redirections n, c with
      | [], c => return c
      | rs, .isolated c _ => return .isolated c rs
      | rs, c => return .redirected c rs
    match cs with
    | '(' :: rest =>
      setRest rest
      let c ← commands n true
      take ')'
      redirected (.isolated c [])
    | _ =>
      let name := plainWord cs
      let rest := cs.drop name.length
      match name with
      | "\x7b" =>
        setRest rest
        let c ← commands n true
        word "\x7d"
        redirected c
      | "if" =>
        setRest rest
        redirected (← choice n)
      | "while" =>
        setRest rest
        redirected (← looping n true)
      | "until" =>
        setRest rest
        redirected (← looping n false)
      | "for" =>
        setRest rest
        let item := plainWord (← skipBlanks)
        if !isName item.toList then failure
        setRest ((← peek).drop item.length)
        redirected (← iteration n item)
      | "case" =>
        setRest rest
        let w ← nextWord n
        skipLines n
        word "in"
        redirected (.select w (← arms n))
      | _ =>
        if reservedWords.contains name && name != "in" then failure else simple n [] [] []

def iteration : Nat → String → Reader Command
  | 0, _ => failure
  | n + 1, name => do
    let items ← match ← skipBlanks with
      | ';' :: rest =>
        setRest rest
        pure [[.parameter "@" .plain true]]
      | _ =>
        skipLines n
        if ← word? "in" then
          let ws ← itemWords n
          match ← skipBlanks with
          | ';' :: rest => setRest rest
          | '\n' :: _ => pure ()
          | _ => failure
          pure ws
        else pure [[.parameter "@" .plain true]]
    skipLines n
    word "do"
    let body ← commands n true
    word "done"
    return .each name items body

def itemWords : Nat → Reader (List Word)
  | 0 => failure
  | n + 1 => do
    match ← skipBlanks with
    | [] => return []
    | c :: _ => if endsWord c then return [] else return (← nextWord n) :: (← itemWords n)

def choice : Nat → Reader Command
  | 0 => failure
  | n + 1 => do
    let test ← commands n true
    word "then"
    let yes ← commands n true
    if ← word? "elif" then return .choose test yes (← choice n)
    else if ← word? "else" then
      let no ← commands n true
      word "fi"
      return .choose test yes no
    else
      word "fi"
      return .choose test yes (.sequence [])

def looping : Nat → Bool → Reader Command
  | 0, _ => failure
  | n + 1, runsWhile => do
    let test ← commands n true
    word "do"
    let body ← commands n true
    word "done"
    return .loop runsWhile test body

def patterns : Nat → Reader (List Word)
  | 0 => failure
  | n + 1 => do
    let w ← nextWord n
    match ← skipBlanks with
    | '|' :: rest =>
      setRest rest
      return w :: (← patterns n)
    | ')' :: rest =>
      setRest rest
      return [w]
    | _ => failure

def arms : Nat → Reader (List (List Word × Command))
  | 0 => failure
  | n + 1 => do
    skipLines n
    if ← word? "esac" then return []
    match ← peek with
    | '(' :: rest => setRest rest
    | _ => pure ()
    let ps ← patterns n
    let body ← commands n false
    match ← skipBlanks with
    | ';' :: ';' :: rest =>
      setRest rest
      return (ps, body) :: (← arms n)
    | _ =>
      word "esac"
      return [(ps, body)]

def pipeline : Nat → Reader Command
  | 0 => failure
  | n + 1 => do
    if ← word? "!" then return .negated (← piped n) else piped n

def piped : Nat → Reader Command
  | 0 => failure
  | n + 1 => do
    let c ← command n
    match ← skipBlanks with
    | '|' :: '|' :: _ => return c
    | '|' :: rest =>
      setRest rest
      skipLines n
      return .pipe c (← piped n)
    | _ => return c

def joined : Nat → Command → Reader Command
  | 0, _ => failure
  | n + 1, c => do
    match ← skipBlanks with
    | '&' :: '&' :: rest =>
      setRest rest
      skipLines n
      joined n (.both c (← pipeline n))
    | '|' :: '|' :: rest =>
      setRest rest
      skipLines n
      joined n (.either c (← pipeline n))
    | _ => return c

/-- One list with the separator after it, and whether another may follow on the same line. -/
def item : Nat → Reader (Command × Bool)
  | 0 => failure
  | n + 1 => do
    let c ← joined n (← pipeline n)
    match ← skipBlanks with
    | ';' :: ';' :: _ => return (c, false)
    | ';' :: rest =>
      setRest rest
      return (c, true)
    | '&' :: rest =>
      setRest rest
      return (.background c, true)
    | _ => return (c, false)

def commands : Nat → Bool → Reader Command
  | 0, _ => failure
  | n + 1, mustBeThere => do
    skipLines n
    let cs ← skipBlanks
    let isEnd := match cs with
      | [] | ')' :: _ | ';' :: ';' :: _ => true
      | _ => stopWords.contains (plainWord cs)
    if isEnd then
      if mustBeThere then failure
      if cs.isEmpty then documents n
      return .sequence []
    else
      let (c, goesOn) ← item n
      let isNext := goesOn || (match ← skipBlanks with
        | [] | '\n' :: _ => true
        | _ => false)
      if isNext then
        match ← commands n false with
        | .sequence cs => return .sequence (c :: cs)
        | d => return .sequence [c, d]
      else return .sequence [c]

end

def lineCommands : Nat → Reader (List Command)
  | 0 => failure
  | n + 1 => do
    let fuel := 8 * ((← peek).length + 8)
    match ← skipBlanks with
    | [] =>
      documents fuel
      return []
    | '\n' :: _ =>
      lineEnd fuel
      return []
    | _ =>
      let (c, goesOn) ← item fuel
      match ← skipBlanks with
      | [] | '\n' :: _ => return c :: (← lineCommands n)
      | _ => if goesOn then return c :: (← lineCommands n) else failure

def nextLine : Reader Command := do
  return .sequence (← lineCommands ((← peek).length + 1))

end Reactor.Shell
