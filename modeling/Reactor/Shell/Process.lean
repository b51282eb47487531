import Reactor.Shell.Builtin
import Reactor.Shell.Program

namespace Reactor.Shell

open Run

def withTested (isTested : Bool) (r : Run Unit) : Run Unit := do
  let before := (← own).isTested
  modifyOwn ({ · with isTested := isTested })
  thenAlways r (modifyOwn ({ · with isTested := before }))

/-- Where failures end a script, one that nobody looks at does. -/
def settle : Run Unit := do
  let o ← own
  if o.status != 0 && !o.isTested && o.options.contains 'e' then throw .exit

def forgiving (r : Run Unit) : Run Unit := do
  match ← attempt r with
  | .ok _ => return
  | .error .failed => setStatus 2
  | .error e => throw e

/-- Runs in a process with a context of its own, which shares only the disk, the time and what is
open. -/
def apart (context : Context) (r : Run Unit) : Run Unit := do
  let before ← get
  modifyOwn fun _ ↦ context
  let ended ← attempt r
  modify fun s ↦
    { s with
      own := { before.own with status := s.own.status }
      disk := { s.disk with working := before.disk.working } }
  match ended with
  | .error (.killed process signal) =>
    if process = context.process && process ≠ before.own.process then
      setStatus (Signal.status signal)
    else throw (.killed process signal)
  | .error .endless => throw .endless
  | .error .broken => throw .broken
  | _ => return

def Context.inner (o : Context) : Context :=
  { o with
    level := o.level + 1
    traps := o.traps.filter (·.2.isEmpty)
    statusBeforeTrap := none }

def Context.start (o : Context) (process : Nat) (directory name : Octets)
    (arguments : List Octets) : Context :=
  let given := o.values.filter fun _ v ↦ v.isExported && v.value.isSome
  let given := given.map fun _ v ↦ { v with isFixed := false }
  let shown (n : Nat) : Variable := ⟨some (toString n).toList, false, false⟩
  { values := ((given.insert "OPTIND" (shown 1)).insert "PPID" (shown o.process)).insert "PWD"
      ⟨some directory, (given["PWD"]?).any Variable.isExported, false⟩
    functions := []
    documents := []
    name := name
    arguments := arguments
    status := 0
    options := []
    isTested := false
    loops := 0
    locals := []
    traps := o.traps.filter (·.2.isEmpty)
    process := process
    level := 0
    lastJob := none
    descriptors := o.descriptors
    optionOffset := 0
    outputStatus := 0
    statusBeforeTrap := none }

def send (signal process : Nat) : Run Bool := do
  let s ← get
  match s.caught.lookup process with
  | some traps =>
    if signal = 0 then return true
    match if Signal.isFinal signal then none else traps.lookup signal with
    | some action =>
      if !action.isEmpty then
        modify fun s ↦ { s with pending := s.pending ++ [(process, signal)] }
    | none =>
      if Signal.isStop signal then throw .endless
      if !Signal.isHarmless signal then throw (.killed process signal)
    return true
  | none =>
    match s.jobs.find? (·.process == process) with
    | none => return false
    | some j =>
      let isOver := j.finish.any (· ≤ s.elapsed)
      let isIgnored := Signal.isHarmless signal || signal == 2 || signal == 3
      if signal != 0 && !isOver && !isIgnored then
        let ended := if Signal.isStop signal then { j with finish := none, work := none }
          else { j with finish := some s.elapsed, status := Signal.status signal, work := none }
        modify fun s ↦
          { s with jobs := s.jobs.map fun k ↦ if k.process = process then ended else k }
      return true

def processOf? (cs : Octets) : Run (Option Nat) := do
  match cs with
  | '%' :: rest =>
    let jobs := (← get).jobs
    match natural? rest with
    | some n => return (jobs.reverse[n - 1]?).map Job.process
    | none => return (jobs.head?).map Job.process
  | _ => return natural? cs

def sendAll (signal : Nat) (ws : List Octets) : Run Unit := do
  setStatus 0
  for w in ws do
    let isThere ← match ← processOf? w with
      | some p => if p = 0 then send signal (← own).process else send signal p
      | none => pure false
    if !isThere then setStatus 1

def signalNames (ws : List Octets) : Run Unit := do
  match ws with
  | [] => print ((List.range (Signal.highest + 1)).flatMap fun n ↦
      (if n = 0 then "0" else Signal.shortName n).toList ++ ['\n'])
  | w :: _ =>
    match natural? w with
    | some n =>
      let n := if n > 128 then n - 128 else n
      if n > Signal.highest then fail else print ((Signal.shortName n).toList ++ ['\n'])
    | none => fail

def signalOf? (mayStart : Bool) (cs : Octets) : Option Nat :=
  let upper := cs.map Char.toUpper
  if mayStart && "SIG".toList.isPrefixOf upper then Signal.read? (cs.drop 3) else Signal.read? cs

def kill (mayStart : Bool) : Utility := fun ws ↦ do
  let send (signal? : Option Nat) (targets : List Octets) : Run Unit := do
    match signal?, targets with
    | some signal, _ :: _ => sendAll signal targets
    | _, _ => fail
  match ws with
  | ['-', 'l'] :: rest | ['-', 'L'] :: rest => signalNames rest
  | ['-', 's'] :: name :: ['-', '-'] :: rest | ['-', 's'] :: name :: rest =>
    send (signalOf? mayStart name) rest
  | ['-', '-'] :: rest => send (some Signal.term) rest
  | ('-' :: 's' :: c :: cs) :: rest =>
    send ((signalOf? mayStart (c :: cs)).or (signalOf? mayStart ('s' :: c :: cs))) rest
  | ('-' :: name) :: ['-', '-'] :: rest | ('-' :: name) :: rest =>
    send (signalOf? mayStart name) rest
  | _ => send (some Signal.term) ws

def parameter? (name : String) : Run (Option Octets) := do
  let o ← own
  let number (n : Nat) : Octets := (toString n).toList
  match name with
  | "#" => return some (number o.arguments.length)
  | "?" => return some (number o.status)
  | "$" => return some (number o.process)
  | "!" => return o.lastJob.map number
  | "-" => return some (Builtin.optionLetters o.options)
  | _ =>
    match natural? name.toList with
    | some 0 => return some o.name
    | some n => return o.arguments[n - 1]?
    | none => value? name

def argumentMarks (isList isQuoted splits : Bool) : Run (List Mark) := do
  let arguments := (← own).arguments
  let separators ← Builtin.separators
  if isList && isQuoted && splits then
    return if arguments.isEmpty then []
      else .keep :: [Mark.cut true].intercalate (arguments.map (Mark.fixed true))
  else if isQuoted || !splits then
    return Mark.placed isQuoted ((separators.head?.toList).intercalate arguments)
  else return [Mark.cut false].intercalate (arguments.map Mark.loose)

def dropOctets : Nat → List Mark → List Mark
  | n + 1, .octet .. :: ms => dropOctets n ms
  | n + 1, m :: ms => m :: dropOctets (n + 1) ms
  | _, ms => ms

def trimmedMarks (atEnd longest : Bool) (pattern : Text.Pattern) (marks : List Mark) : List Mark :=
  let text := Mark.textOf marks
  let count := text.length - (trimmed atEnd longest pattern text).length
  if atEnd then (dropOctets count marks.reverse).reverse else dropOctets count marks

def homeMarks (user : Octets) : Run (List Mark) := do
  if user.isEmpty then
    return match ← value? "HOME" with
      | some home => Mark.fixed true home
      | none => Mark.fixed false ['~']
  else if user = "root".toList then return Mark.fixed true "/root".toList
  else return Mark.fixed false ('~' :: user)

/-- A command's output as a value: without the lines' ends behind it. -/
def valueOfOutput (cs : Octets) : Octets :=
  ((cs.filter (· != '\x00')).reverse.dropWhile (· == '\n')).reverse

def arithmetic (cs : Octets) : Run Octets := do
  let values := (← own).values
  match Arithmetic.evaluate? (fun name ↦ (values[name]?).bind Variable.value) cs with
  | none => fail
  | some (n, assigned) =>
    for (name, value) in assigned do setNumber name value
    return (toString n).toList

def isAssignmentWord (w : Word) : Bool :=
  let bare := w.takeWhile fun
    | .text [_] false => true
    | _ => false
  let text := bare.flatMap fun
    | .text cs _ => cs
    | _ => []
  isName (text.takeWhile (· != '=')) && text.contains '='

def assignmentWord (w : Word) : Word :=
  match w.span (!isBare '=' ·) with
  | (name, sign :: value) => name ++ sign :: withHomes (value.length + 1) value
  | (name, []) => name

/-- Whether the fields so far are a command that assigns what its operands say. -/
def declares (fields : List Octets) : Bool :=
  match fields.dropWhile (· = "command".toList) with
  | name :: _ => Builtin.isDeclaration (String.ofList name)
  | [] => false

def turn (r : Run Unit) : Run (Bool × Bool) := do
  match ← attempt r with
  | .ok _ => return (true, true)
  | .error (.stop n) => if n ≤ 1 then return (false, false) else throw (.stop (n - 1))
  | .error (.next n) => if n ≤ 1 then return (true, false) else throw (.next (n - 1))
  | .error e => throw e

def inLoop (r : Run Unit) : Run Unit := do
  let before := (← own).loops
  modifyOwn ({ · with loops := before + 1 })
  thenAlways r (modifyOwn ({ · with loops := before }))

def keepingDescriptors {α : Type} (r : Run α) : Run α := do
  let before := (← own).descriptors
  thenAlways r (modifyOwn ({ · with descriptors := before }))

def programPath? (name : Octets) : Run (Option Octets) := do
  let d := (← get).disk
  let searchPath := (← value? "PATH").getD Program.shellPath.toList
  let isProgram (path : Octets) : Bool :=
    match d.lookup (pathOf path) with
    | .ok (.program _) => true
    | .ok (.file _ isExecutable) => isExecutable
    | _ => false
  if name.contains '/' then return some name
  else return ((Program.directories searchPath).map (Program.inDirectory · name)).find? isProgram

def refusalStatus : SystemError → Nat
  | .noEntry | .notDirectory | .tooManyLinks | .nameTooLong => 127
  | _ => 126

def describe (isForReaders : Bool) (cs : Octets) : Run Bool := do
  let name := String.ofList cs
  let tell (short long : String) : Run Bool := do
    let _ ← write ((if isForReaders then s!"{name} is {long}\n" else short ++ "\n").toList)
    return true
  if reservedWords.contains name then tell name "a shell keyword"
  else if specialCommands.contains name then tell name "a special shell builtin"
  else if ((← own).functions.lookup name).isSome then tell name "a shell function"
  else if Builtin.isBuiltin name then tell name "a shell builtin"
  else
    match ← programPath? cs with
    | some path =>
      if ((← get).disk.lookup (pathOf path)).isOk then
        tell (String.ofList path) (String.ofList path)
      else return false
    | none => return false

/-- Reads the lines of a script and runs each when those before it are done. -/
def runLines (run : Command → Run Unit) : Nat → Octets → Run Unit
  | 0, _ => return
  | n + 1, cs => do
    if cs.isEmpty then return
    let next := (← get).next
    match nextLine.run ⟨cs, [], [], next⟩ with
    | none => fail
    | some (c, i) =>
      modify fun s ↦ { s with next := i.next }
      modifyOwn fun o ↦ { o with documents := i.documents ++ o.documents }
      run c
      if i.rest.length < cs.length then runLines run n i.rest else fail

end Reactor.Shell
