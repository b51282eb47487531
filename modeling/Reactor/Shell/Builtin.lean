import Reactor.Shell.Condition
import Reactor.Shell.Format
import Reactor.Shell.Reader
import Reactor.Shell.Signal
import Reactor.Shell.Utility.Option

namespace Reactor.Shell

open Run

namespace Builtin

def number (cs : Octets) : Run Nat :=
  match (natural? cs).filter (· ≤ 2147483647) with
  | some n => return n
  | none => fail

def options (letters : String) : List Octets → Run (List Char × List Octets)
  | ['-', '-'] :: ws => return ([], ws)
  | ('-' :: c :: cs) :: ws => do
    if !(c :: cs).all letters.toList.contains then fail
    let (given, ws) ← options letters ws
    return (c :: cs ++ given, ws)
  | ws => return ([], ws)

def checkName (cs : Octets) : Run String := if isName cs then return String.ofList cs else fail

def singleQuote : Char := Char.ofNat 39

def joinQuoted : Nat → List Octets → Octets
  | _, [] => []
  | n, p :: ps =>
    let quotes := if n = 0 then [] else '"' :: List.replicate n singleQuote ++ ['"']
    if p.isEmpty && !ps.isEmpty then joinQuoted (n + 1) ps
    else quotes ++ (if p.isEmpty then [] else singleQuote :: p ++ [singleQuote]) ++ joinQuoted 1 ps

def quoted (cs : Octets) : Octets :=
  if cs.isEmpty then [singleQuote, singleQuote] else joinQuoted 0 (Text.cut singleQuote cs)

def exit : Utility := fun ws ↦ do
  match ws, (← own).statusBeforeTrap with
  | w :: _, _ => setStatus (← number w)
  | [], some n => setStatus n
  | [], none => pure ()
  throw .exit

def leave : Utility := fun ws ↦ do
  match ws with
  | w :: _ => setStatus (← number w)
  | [] => pure ()
  throw .leave

/-- Ends loops or their turns; without a loop nothing happens. -/
def levels (flow : Nat → Flow) : Utility := fun ws ↦ do
  let n ← match ws with
    | w :: _ => number w
    | [] => pure 1
  if n = 0 then fail
  let n := min n (← own).loops
  setStatus 0
  if n > 0 then throw (flow n)

def shift : Utility := fun ws ↦ do
  let n ← match ws with
    | w :: _ => number w
    | [] => pure 1
  let o ← own
  if n > o.arguments.length then fail
  modifyOwn ({ · with arguments := o.arguments.drop n })
  setStatus 0

def optionNames : List (String × Char) :=
  [("errexit", 'e'), ("noglob", 'f'), ("ignoreeof", 'I'), ("interactive", 'i'), ("monitor", 'm'),
    ("noexec", 'n'), ("stdin", 's'), ("xtrace", 'x'), ("verbose", 'v'), ("vi", 'V'), ("emacs", 'E'),
    ("noclobber", 'C'), ("allexport", 'a'), ("notify", 'b'), ("nounset", 'u'), ("nolog", 'N'),
    ("debug", 'D')]

def setOption (isOn : Bool) (c : Char) : Run Unit := do
  if !optionNames.any (·.2 == c) then fail
  modifyOwn fun o ↦
    let others := o.options.filter (· != c)
    { o with options := if isOn then c :: others else others }

def optionLetters (options : List Char) : Octets :=
  (optionNames.map Prod.snd).reverse.filter fun c ↦ options.contains c && c != 'N' && c != 'D'

def column (width : Nat) (s : String) : String :=
  s ++ String.ofList (List.replicate (width - s.length) ' ')

def printOptions (isForReaders : Bool) : Run Unit := do
  let o ← own
  let line (name : String) (c : Char) : String :=
    if isForReaders then column 16 name ++ (if o.options.contains c then "on" else "off")
    else (if o.options.contains c then "set -o " else "set +o ") ++ name
  let lines := optionNames.map fun (name, c) ↦ line name c
  let lines := if isForReaders then "Current option settings" :: lines else lines
  print (lines.flatMap fun l ↦ l.toList ++ ['\n'])

/-- Sets the options in front of the words. What is left follows, with whether a `--` came before
it, and whether a command was announced, which only a shell that starts may be told. -/
def readOptions (starts : Bool) : Nat → Bool → List Octets → Run (List Octets × Bool × Bool)
  | 0, c, ws => return (ws, false, c)
  | n + 1, hasCommand, ws => do
    let letters (isOn : Bool) (cs : Octets) (ws : List Octets) := do
      let mut hasCommand := hasCommand
      let mut ws := ws
      for c in cs do
        if c = 'c' ∧ starts then hasCommand := true
        else if c = 'l' ∧ starts then pure ()
        else if c = 'o' then
          match ws with
          | [] => printOptions isOn
          | name :: rest =>
            match optionNames.lookup (String.ofList name) with
            | some c => setOption isOn c
            | none => fail
            ws := rest
        else setOption isOn c
      readOptions starts n hasCommand ws
    match ws with
    | ['-'] :: ws =>
      if !starts then
        setOption false 'x'
        setOption false 'v'
      return (ws, false, hasCommand)
    | ['-', '-'] :: ws => return (ws, true, hasCommand)
    | ('-' :: cs) :: ws => letters true cs ws
    | ('+' :: cs) :: ws => letters false cs ws
    | ws => return (ws, false, hasCommand)

def printVariables (word : String) (picks : Variable → Bool) : Run Unit := do
  let line : String × Variable → Octets := fun (name, v) ↦
    word.toList ++ name.toList
      ++ (match v.value with
        | some value => '=' :: quoted value
        | none => [])
      ++ ['\n']
  print (((← own).values.toList.filter (picks ·.2)).flatMap line)

def set : Utility := fun ws ↦ do
  if ws.isEmpty then printVariables "" (·.value.isSome)
  else
    setStatus 0
    let (rest, isEnded, _) ← readOptions false (ws.length + 1) false ws
    if isEnded || !rest.isEmpty then modifyOwn ({ · with arguments := rest })

def assignment (cs : Octets) : Run (String × Option Octets) := do
  let name ← checkName (cs.takeWhile (· != '='))
  return (name, (cs.dropWhile (· != '=')).tail?)

def declare (word : String) (marks : Variable → Bool) (mark : Variable → Variable) : Utility :=
    fun ws ↦ do
  let (given, ws) ← options "p" ws
  if ws.isEmpty || given.contains 'p' then printVariables word marks
  else
    setStatus 0
    for w in ws do
      let (name, value?) ← assignment w
      match value? with
      | some value => setValue name value
      | none => pure ()
      modifyOwn fun o ↦
        let v := (o.values[name]?).getD ⟨none, false, false⟩
        { o with values := o.values.insert name (mark v) }

def makeLocal (name : String) : Run Unit :=
  modifyOwn fun o ↦
    match o.locals with
    | frame :: frames =>
      let before : Option Variable := if name = "-" then some ⟨some o.options, false, false⟩
        else o.values[name]?
      if frame.any (·.1 == name) then o
      else { o with locals := ((name, before) :: frame) :: frames }
    | [] => o

def localize : Utility := fun ws ↦ do
  if (← own).locals.isEmpty then fail
  setStatus 0
  for w in ws do
    if w = ['-'] then makeLocal "-"
    else
      let (name, value?) ← assignment w
      makeLocal name
      match value? with
      | some value => setValue name value
      | none => pure ()

def unset : Utility := fun ws ↦ do
  let (given, ws) ← options "vf" ws
  setStatus 0
  for w in ws do
    if given.contains 'f' then
      modifyOwn fun o ↦ { o with functions := o.functions.filter (·.1.toList != w) }
    else
      let name ← checkName w
      if ((← own).values[name]?).any Variable.isFixed then fail
      modifyOwn fun o ↦ { o with values := o.values.erase name }

def echo : Utility := fun ws ↦ do
  let (ending, ws) : Octets × List Octets := match ws with
    | ['-', 'n'] :: rest => ([], rest)
    | _ => (['\n'], ws)
  let (text, isCut) := unescaped ([' '].intercalate ws)
  print (if isCut then text else text ++ ending)

def printf : Utility := fun ws ↦ do
  let (_, ws) ← options "" ws
  match ws with
  | [] => fail
  | format :: arguments =>
    let (text, status) := formatted format arguments
    let isWritten ← write text
    setStatus (if isWritten then status else 1)

def test : Utility := fun ws ↦ do setStatus (Condition.status (← get).disk ws)

def bracket : Utility := fun ws ↦ do
  if ws.getLast? = some [']'] then test ws.dropLast else fail

def physicalDirectory : Run Octets :=
  return Text.Octets.ofText (Disk.pathOf (← get).disk.working).text

def directory : Run Octets := do
  let physical ← physicalDirectory
  let d := (← get).disk
  match ← value? "PWD" with
  | some cs =>
    match cs.head?, d.resolve (pathOf cs) true with
    | some '/', .ok place => return if place = d.working then cs else physical
    | _, _ => return physical
  | none => return physical

def pwd : Utility := fun ws ↦ do
  let (given, _) ← options "LP" ws
  let path ← if given.getLast? = some 'P' then physicalDirectory else directory
  print (path ++ ['\n'])

def logicalPath (start path : Octets) : Octets :=
  let steps := Text.cut '/' (if path.head? = some '/' then path else start ++ '/' :: path)
  let names := steps.foldl (fun (names : List Octets) step ↦
    match step with
    | [] | ['.'] => names
    | ['.', '.'] => names.tail
    | _ => step :: names) []
  '/' :: ['/'].intercalate names.reverse

def cd : Utility := fun ws ↦ do
  let (given, ws) ← options "LP" ws
  let before ← directory
  let home ← value? "HOME"
  let path : Octets := match ws with
    | [] => home.getD []
    | w :: _ => w
  let path ← if path = ['-'] then valueD "OLDPWD" else pure path
  if path.isEmpty then setStatus 0
  else
    let isPhysical := given.getLast? == some 'P'
    let target := if isPhysical then path else logicalPath before path
    let d := (← get).disk
    match d.lookup (pathOf target), d.resolve (pathOf target) true with
    | .ok .directory, .ok place =>
      modify fun s ↦ { s with disk := { d with working := place } }
      let after ← if isPhysical then physicalDirectory else pure target
      for (name, value) in [("OLDPWD", before), ("PWD", after)] do
        setValue name value
        modifyOwn fun o ↦
          { o with values := o.values.modify name ({ · with isExported := true }) }
      setStatus 0
      if ws = [['-']] then print (after ++ ['\n'])
    | _, _ => fail

def separators : Run Octets := return (← value? "IFS").getD [' ', '\t', '\n']

/-- A line for `read`, each octet with whether a backslash kept it, and how much was taken; the line
is ended or the text was not long enough. -/
def readLine (isRaw : Bool) : Octets → Nat → List (Char × Bool) → List (Char × Bool) × Nat × Bool
  | [], n, line => (line.reverse, n, false)
  | '\n' :: _, n, line => (line.reverse, n + 1, true)
  | '\\' :: cs, n, line =>
    if isRaw then readLine isRaw cs (n + 1) (('\\', false) :: line)
    else
      match cs with
      | [] => (line.reverse, n + 1, false)
      | '\n' :: cs => readLine isRaw cs (n + 2) line
      | c :: cs => readLine isRaw cs (n + 2) ((c, true) :: line)
  | c :: cs, n, line => readLine isRaw cs (n + 1) (if c = '\x00' then line else (c, false) :: line)

/-- The values that a line gives to so many variables; the last takes the rest of the line. -/
def readFields (separators : Octets) : Nat → List (Char × Bool) → List Octets
  | 0, _ => []
  | n + 1, line =>
    let isSeparator : Char × Bool → Bool := fun (c, isKept) ↦ !isKept && separators.contains c
    let isBlank : Char × Bool → Bool := fun p ↦ isSeparator p && Mark.isBlankSeparator p.1
    let line := line.dropWhile isBlank
    let field := line.takeWhile (!isSeparator ·)
    let rest := (line.drop field.length).dropWhile isBlank
    let rest := match rest with
      | p :: more => if isSeparator p then more.dropWhile isBlank else rest
      | [] => rest
    let textOf (ps : List (Char × Bool)) : Octets := ps.map Prod.fst
    if n = 0 then
      if rest.isEmpty then [textOf field]
      else [textOf ((line.reverse.dropWhile isBlank).reverse)]
    else textOf field :: readFields separators n rest

def readFlags (isRaw : Bool) : List Octets → Run (Bool × List Octets)
  | ['-', '-'] :: ws => return (isRaw, ws)
  | ['-', 'p'] :: _ :: ws => readFlags isRaw ws
  | ('-' :: 'p' :: _ :: _) :: ws => readFlags isRaw ws
  | ['-', 'r'] :: ws => readFlags true ws
  | ('-' :: _ :: _) :: _ => fail
  | ws => return (isRaw, ws)

def read : Utility := fun ws ↦ do
  let (isRaw, names) ← readFlags false ws
  if names.isEmpty then fail
  let text := (← left? 0).getD []
  let (line, count, isEnded) := readLine isRaw text 0 []
  consume 0 count
  if !isEnded then askForMore 0
  let values := readFields (← separators) names.length line
  for (name, value) in names.zip values do setValue (← checkName name) value
  setStatus (if isEnded then 0 else 1)

def takesValue? (taken : Octets) (c : Char) : Option Bool :=
  match taken with
  | [] => none
  | d :: rest =>
    let needs := rest.head? == some ':'
    if c = d then some needs else takesValue? (if needs then rest.tail else rest) c
termination_by taken.length
decreasing_by
  simp only [List.length_cons]
  split
  · have := List.length_tail (l := rest); omega
  · omega

def getopts : Utility := fun ws ↦ do
  match ws with
  | taken :: name :: rest =>
    let name ← checkName name
    let o ← own
    let words := if rest.isEmpty then o.arguments else rest
    let index := (((← valueD "OPTIND") |> natural?).getD 1)
    let isQuiet := taken.head? == some ':'
    let inWord := ((words[index - 2]?).getD []).drop o.optionOffset
    let isInside := index ≥ 2 && o.optionOffset > 0 && !inWord.isEmpty
    let finish (index offset : Nat) (c : Char) (argument? : Option Octets) : Run Unit := do
      setNumber "OPTIND" index
      modifyOwn ({ · with optionOffset := offset })
      match argument? with
      | some a => setValue "OPTARG" a
      | none => modifyOwn fun o ↦ { o with values := o.values.erase "OPTARG" }
      setValue name [c]
      setStatus 0
    let finished (index : Nat) : Run Unit := do
      setNumber "OPTIND" index
      modifyOwn ({ · with optionOffset := 0 })
      setValue name ['?']
      setStatus 1
    let letter (c : Char) (more : Octets) (index offset : Nat) : Run Unit := do
      let offset' := if more.isEmpty then 0 else offset + 1
      match takesValue? (if isQuiet then taken.tail else taken) c with
      | none => finish index offset' '?' (if isQuiet then some [c] else none)
      | some false => finish index offset' c (some [])
      | some true =>
        if !more.isEmpty then finish index 0 c (some more)
        else
          match words[index - 1]? with
          | some a => finish (index + 1) 0 c (some a)
          | none =>
            finish index 0 (if isQuiet then ':' else '?') (if isQuiet then some [c] else none)
    match isInside, inWord with
    | true, c :: more => letter c more index o.optionOffset
    | _, _ =>
      match words[index - 1]? with
      | some ['-', '-'] => finished (index + 1)
      | some ('-' :: c :: more) => letter c more (index + 1) 1
      | _ => finished index
  | _ => fail

def catchSignals : Run Unit := do
  let o ← own
  if o.level = 0 then
    modify fun s ↦
      { s with caught := (o.process, o.traps) :: s.caught.filter (·.1 != o.process) }

def trap : Utility := fun ws ↦ do
  let (_, ws) ← match ws with
    | ['-'] :: _ => pure ([], ws)
    | _ => options "" ws
  match ws with
  | [] =>
    let line : Nat × Octets → Octets := fun (signal, action) ↦
      "trap -- ".toList ++ quoted action ++ ' ' :: (Signal.shortName signal).toList ++ ['\n']
    print (((← own).traps.mergeSort fun a b ↦ a.1 ≤ b.1).flatMap line)
  | w :: rest =>
    let isNumber := (natural? w).any (· ≤ Signal.highest)
    let (action?, names) : Option Octets × List Octets :=
      if rest.isEmpty || isNumber then (none, ws)
      else if w = ['-'] then (none, rest)
      else (some w, rest)
    setStatus 0
    for name in names do
      if !(← succeeded) then pure ()
      else
        match Signal.read? name with
        | none => setStatus 1
        | some signal =>
          modifyOwn fun o ↦
            let others := o.traps.filter (·.1 != signal)
            { o with traps := (action?.map (signal, ·)).toList ++ others }
    catchSignals

def plainCommands : List String :=
  ["[", "alias", "bg", "cd", "chdir", "command", "echo", "false", "fc", "fg", "getopts", "hash",
    "jobs", "kill", "printf", "pwd", "read", "test", "true", "type", "ulimit", "umask", "unalias",
    "wait"]

def isSpecial (name : String) : Bool := specialCommands.contains name || name == "local"

def isBuiltin (name : String) : Bool := isSpecial name || plainCommands.contains name

def isDeclaration (name : String) : Bool := ["export", "readonly", "local"].contains name

def table : List (String × Utility) :=
  [(":", fun _ ↦ setStatus 0), ("true", fun _ ↦ setStatus 0), ("false", fun _ ↦ setStatus 1),
    ("exit", exit), ("return", leave), ("break", levels .stop), ("continue", levels .next),
    ("shift", shift), ("set", set),
    ("export", declare "export " (·.isExported) ({ · with isExported := true })),
    ("readonly", declare "readonly " (·.isFixed) ({ · with isFixed := true })),
    ("local", localize), ("unset", unset), ("echo", echo), ("printf", printf), ("test", test),
    ("[", bracket), ("pwd", pwd), ("cd", cd), ("chdir", cd), ("read", read), ("getopts", getopts),
    ("trap", trap),
    ("umask", fun ws ↦ if ws.isEmpty then print "0022\n".toList else setStatus 0),
    ("ulimit", fun ws ↦ if ws.length ≤ 1 then print "unlimited\n".toList else setStatus 0),
    ("times", fun _ ↦ print "0m0.000000s 0m0.000000s\n0m0.000000s 0m0.000000s\n".toList),
    ("hash", fun _ ↦ setStatus 0), ("alias", fun _ ↦ setStatus 0), ("unalias", fun _ ↦ setStatus 0),
    ("bg", fun _ ↦ fail), ("fg", fun _ ↦ fail), ("fc", fun _ ↦ fail)]

end Builtin

end Reactor.Shell
