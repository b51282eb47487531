import Reactor.Shell.Process
import Reactor.Shell.Utility.Edit
import Reactor.Shell.Utility.Expression
import Reactor.Shell.Utility.Search

namespace Reactor.Shell

open Run

namespace Utility

def milliseconds? (cs : Octets) : Option Nat :=
  let whole := cs.takeWhile Char.isDigit
  let (part, unit) := match cs.drop whole.length with
    | '.' :: rest => (rest.takeWhile Char.isDigit, rest.dropWhile Char.isDigit)
    | rest => ([], rest)
  let number (digits : Octets) := (String.ofList digits).toNat?.getD 0
  let thousandths := number (whole ++ (part ++ ['0', '0', '0']).take 3)
  if whole.isEmpty && part.isEmpty then none
  else
    match unit with
    | [] | ['s'] => some thousandths
    | ['m'] => some (thousandths * 60)
    | ['h'] => some (thousandths * 3600)
    | ['d'] => some (thousandths * 86400)
    | _ => none

def pauseOf? (ws : List Octets) : Option Nat :=
  let ws := if ws.head? = some ['-', '-'] then ws.tail else ws
  if ws.isEmpty then none else (ws.mapM milliseconds?).map fun ms ↦ ms.foldl (· + ·) 0

def wordsOf : Nat → Option Char → Option Octets → Octets → List Octets
  | 0, _, word, _ | _, _, word, [] => (word.map List.reverse).toList
  | n + 1, quote?, word, c :: cs =>
    let add (d : Char) (cs : Octets) := wordsOf n quote? (some (d :: word.getD [])) cs
    match quote? with
    | some q =>
      if c = q then wordsOf n none word cs
      else
        match c, cs with
        | '\\', d :: cs => if q = '"' then add d cs else add c (d :: cs)
        | _, cs => add c cs
    | none =>
      if c = '"' ∨ c = Builtin.singleQuote then wordsOf n (some c) (some (word.getD [])) cs
      else if Arithmetic.isSpace c then
        (word.map List.reverse).toList ++ wordsOf n none none cs
      else
        match c, cs with
        | '\\', d :: cs => add d cs
        | _, cs => add c cs

/-- What `env` changes about the variables, and the command that follows; none for a bad option. -/
def surroundings? (ws : List Octets) : Option ((Variables → Variables) × List Octets) :=
  let rec read : Nat → (Variables → Variables) → List Octets →
      Option ((Variables → Variables) × List Octets)
    | 0, f, ws => some (f, ws)
    | n + 1, f, ws =>
      let drop : Variables → Variables := fun vs ↦ vs.filter fun _ v ↦ !v.isExported
      match ws with
      | ['-'] :: ws | ['-', 'i'] :: ws => read n (drop ∘ f) ws
      | ['-', '-'] :: ws => some (assign n f ws)
      | ['-', 'u'] :: name :: ws => read n (fun vs ↦ (f vs).erase (String.ofList name)) ws
      | ('-' :: 'S' :: text) :: ws => read n f (wordsOf text.length none none text ++ ws)
      | w :: ws' =>
        match String.ofList w with
        | "--ignore-environment" => read n (drop ∘ f) ws'
        | "-0" | "--null" => read n f ws'
        | _ => if w.head? = some '-' then none else some (assign n f ws)
      | [] => some (f, [])
  read (2 * ws.length + 16) id ws
where
  assign : Nat → (Variables → Variables) → List Octets → (Variables → Variables) × List Octets
    | 0, f, ws => (f, ws)
    | _ + 1, f, [] => (f, [])
    | n + 1, f, w :: ws =>
      if w.contains '=' then
        let name := String.ofList (w.takeWhile (· != '='))
        let value := w.drop (name.length + 1)
        assign n (fun vs ↦ (f vs).insert name ⟨some value, true, false⟩) ws
      else (f, w :: ws)

def portions? (ws : List Octets) (input : Octets) : Option (List (List Octets)) :=
  let table : OptionTable :=
    { flags := "0rtpx", valued := "nIdLPsEa", stops := true
      long := [("null", '0'), ("no-run-if-empty", 'r'), ("max-args", 'n'), ("delimiter", 'd')] }
  (table.read? ws).bind fun o ↦
    let command := if o.operands.isEmpty then ["echo".toList] else o.operands
    let divided (c : Char) : List Octets :=
      let pieces := Text.cut c input
      if pieces.getLast? = some [] then pieces.dropLast else pieces
    let lines := (divided '\n').map (·.dropWhile Arithmetic.isSpace) |>.filter (!·.isEmpty)
    let items := if o.has '0' then divided '\x00'
      else match o.value? 'd' with
        | some d => divided ((unescaped d).1.headD '\n')
        | none => if o.has 'I' then lines else wordsOf input.length none none input
    match o.value? 'I', (o.value? 'n').bind natural? with
    | some mark, _ =>
      let put (item word : Octets) : Octets :=
        (String.ofList word).replace (String.ofList mark) (String.ofList item) |>.toList
      some (items.map fun item ↦ command.map (put item))
    | none, some 0 => none
    | none, some n => some ((grouped n items.length items).map (command ++ ·))
    | none, none => if items.isEmpty && o.has 'r' then some [] else some [command ++ items]
where
  grouped (n : Nat) : Nat → List Octets → List (List Octets)
    | _, [] | 0, _ => []
    | k + 1, items => items.take n :: grouped n k (items.drop n)

def portionStatus (status : Nat) : Nat :=
  if status = 0 then 0 else if status = 255 then 124 else if status ≥ 126 then status else 123

/-- How long `timeout` lets a command run, the status if that is over, and the command. -/
def limit? (ws : List Octets) : Option (Nat × Nat × List Octets) :=
  let table : OptionTable :=
    { flags := "vfp", valued := "sk", stops := true
      long :=
        [("signal", 's'), ("kill-after", 'k'), ("preserve-status", 'p'), ("foreground", 'f')] }
  (table.read? ws).bind fun o ↦
    match o.operands with
    | duration :: command :: arguments =>
      let signal? := match o.value? 's' with
        | some name => signalOf? true name
        | none => some Signal.term
      match milliseconds? duration, signal? with
      | some ms, some signal =>
        let status := if o.has 'p' then Signal.status signal
          else if signal = Signal.kill then Signal.status signal else 124
        some (ms, status, command :: arguments)
      | _, _ => none
    | _ => none

def wrapped? (name : String) (ws : List Octets) : Option (List Octets) :=
  let table : OptionTable :=
    match name with
    | "nice" => { flags := "", valued := "n", stops := true }
    | "setsid" => { flags := "cfw", stops := true }
    | "stdbuf" => { flags := "", valued := "ioe", stops := true }
    | _ => { flags := "", stops := true }
  (table.read? ws).map Options.operands

/-- `echo` as a program: escapes mean something only when asked for. -/
def echo : Utility := fun ws ↦ do
  let isFlag (w : Octets) : Bool :=
    w.head? == some '-' && w.length > 1 && w.tail.all ['n', 'e', 'E'].contains
  let flags := (ws.takeWhile isFlag).flatMap List.tail
  let text := [' '].intercalate (ws.dropWhile isFlag)
  let reads := flags.reverse.find? (· != 'n') == some 'e'
  let (text, isCut) := if reads then unescaped text else (text, false)
  print (if isCut || flags.contains 'n' then text else text ++ ['\n'])

def printenv : Utility := fun ws ↦ do
  let table := exported (← own).values
  if ws.any (·.head? == some '-') then setStatus 2
  else if ws.isEmpty then
    print (table.flatMap fun (name, value) ↦ name.toList ++ '=' :: value ++ ['\n'])
  else
    setStatus 0
    for w in ws do
      match table.lookup (String.ofList w) with
      | some value => emit (value ++ ['\n'])
      | none => setStatus 1

def flagged (flags : String) (refusal : Nat) (run : Utility) : Utility :=
  withOptions { flags := flags } refusal fun o ↦ run o.operands

def printf : Utility := fun ws ↦
  Builtin.printf (if ws.head?.any (·.head? == some '-') then ['-', '-'] :: ws else ws)

def pwd : Utility := flagged "LP" 1 fun _ ↦ do print ((← Builtin.physicalDirectory) ++ ['\n'])

def killProgram : Utility := fun ws ↦ do
  match ← attempt (kill true ws) with
  | .ok _ => return
  | .error .failed => setStatus 1
  | .error e => throw e

def telling (text : String) : Utility := fun ws ↦ do
  if ws.any (·.take 1 ≠ ['-']) || ws.contains ['-', 'q'] then setStatus 1 else print text.toList

def table : List (String × Utility) :=
  [("true", fun _ ↦ setStatus 0), ("false", fun _ ↦ setStatus 1), ("echo", echo),
    ("printf", printf), ("test", Builtin.test), ("[", Builtin.bracket),
    ("kill", killProgram), ("pwd", pwd),
    ("printenv", printenv), ("uname", telling "Linux\n"), ("whoami", telling "root\n"),
    ("sync", flagged "df" 1 fun _ ↦ setStatus 0), ("cat", cat), ("head", head), ("tail", tail),
    ("wc", wc),
    ("tr", tr), ("cut", cut), ("sort", sort), ("uniq", uniq), ("tee", tee), ("seq", seq),
    ("basename", basename), ("dirname", dirname), ("tac", tac), ("rev", rev), ("nl", nl),
    ("paste", paste), ("fold", fold), ("yes", flagged "" 1 yes), ("cp", cp), ("mv", mv), ("rm", rm),
    ("rmdir", rmdir), ("mkdir", mkdir), ("touch", touch), ("ln", ln), ("readlink", readlink),
    ("realpath", realpath), ("ls", ls), ("chmod", chmod), ("mktemp", mktemp), ("cmp", cmp),
    ("diff", diff), ("find", find), ("dd", dd), ("sed", sed), ("grep", grepWith 'G'),
    ("egrep", grepWith 'E'), ("fgrep", grepWith 'F'), ("expr", expr)]

end Utility

end Reactor.Shell
