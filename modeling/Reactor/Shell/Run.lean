import Reactor.Shell.Process
import Reactor.Shell.Utility.Edit
import Reactor.Shell.Utility.File
import Reactor.Shell.Utility.System

namespace Reactor.Shell

open Run

def callLimit : Nat := 1000

def tooDeep {α : Type} : Run α := do
  if (← own).locals.length > callLimit / 10 then fail else throw .endless

mutual

def expand : Nat → Bool → Word → Run (List Mark)
  | 0, _, _ => tooDeep
  | n + 1, splits, w => do
    let parts ← w.mapM (expandPiece n splits)
    return parts.flatten

def expandPiece : Nat → Bool → Piece → Run (List Mark)
  | 0, _, _ => tooDeep
  | n + 1, splits, p => do
    match p with
    | .text s true => return if s.isEmpty then [.keep] else Mark.fixed true s
    | .text s false => return Mark.fixed false s
    | .home user => homeMarks user
    | .output script q =>
      let status := (← own).status
      let inner (o : Context) : Context := { o.inner with isTested := false }
      let (ended, text) ← capture false (subshell n inner (exec n script))
      modifyOwn fun o ↦ { o with outputStatus := o.status, status := status }
      match ended with
      | .error e => throw e
      | .ok _ => return Mark.placed q (valueOfOutput text)
    | .arithmetic w q =>
      return Mark.placed q (← arithmetic (Mark.textOf (← expand n false w)))
    | .parameter name use q =>
      let isList := name == "@"
      let isAll := isList || name == "*"
      let value? ← if isAll then pure (some []) else parameter? name
      let marks ← if isAll then argumentMarks isList q splits
        else pure (Mark.placed q (value?.getD []))
      let text := Mark.textOf marks
      let isGiven (checksEmpty : Bool) := value?.isSome && !(checksEmpty && text.isEmpty)
      let known : Run Unit := do if value?.isNone && (← own).options.contains 'u' then fail
      let other (w : Word) : Run (List Mark) := do
        let marks ← expand n splits w
        return if q then marks else marks.map Mark.loosen ++ [.seam]
      match use with
      | .plain =>
        known
        return marks
      | .length =>
        known
        let separators ← Builtin.separators
        let arguments := (← own).arguments
        let all := if isAll then (separators.head?.toList).intercalate arguments else text
        return Mark.placed q (toString all.length).toList
      | .orElse c w => if isGiven c then return marks else other w
      | .ifSet c w => if isGiven c then other w else return []
      | .assign c w =>
        if isGiven c then return marks
        else
          let value := Mark.textOf (← expand n false w)
          setValue (← Builtin.checkName name.toList) value
          return Mark.placed q value
      | .demand c w =>
        if isGiven c then return marks
        else
          let _ ← expand n false w
          fail
      | .trim atEnd longest w =>
        known
        let pattern := patternOf (Mark.patternTextOf (← expand n false w))
        return trimmedMarks atEnd longest pattern marks
      | .senseless => fail

def textOfWord : Nat → Word → Run Octets
  | 0, _ => tooDeep
  | n + 1, w => return Mark.textOf (← expand n false w)

def fieldsOfWords : Nat → List Octets → List Word → Run (List Octets)
  | 0, _, _ => tooDeep
  | _ + 1, fields, [] => return fields
  | n + 1, fields, w :: ws => do
    if isAssignmentWord w && declares fields then
      let text ← textOfWord n (assignmentWord w)
      fieldsOfWords n (fields ++ [text]) ws
    else
      let marks ← expand n true w
      let separators ← Builtin.separators
      let expandsPaths := !(← own).options.contains 'f'
      let d := (← get).disk
      let more := (Mark.fieldsOf separators marks).flatMap (Mark.texts d expandsPaths)
      fieldsOfWords n (fields ++ more) ws

def redirect : Nat → Redirection → Run Bool
  | 0, _ => tooDeep
  | n + 1, r => do
    let file (descriptor : Nat) (w : Word) (p : Purpose) : Run Bool := do
      match ← openFile (← textOfWord n w) p with
      | .ok id =>
        setDescriptor descriptor (some id)
        return true
      | .error _ => return false
    match r with
    | .input descriptor w => file descriptor w .reads
    | .output descriptor w appends => file descriptor w (if appends then .appends else .writes)
    | .both descriptor w => file descriptor w .changes
    | .here descriptor number =>
      let text ← textOfWord n (((← own).documents.lookup number).getD [])
      setDescriptor descriptor (some (← openAs (.reading text false)))
      return true
    | .same descriptor w =>
      let target ← textOfWord n w
      if target = ['-'] then
        setDescriptor descriptor none
        return true
      else
        match natural? target with
        | none => fail
        | some m =>
          match ← descriptorId? m with
          | some id =>
            setDescriptor descriptor (some id)
            return true
          | none => return false

/-- Runs with redirections; what they change stays when `isKept` says so. Where one cannot be, the
status tells, and false is returned. -/
def redirected : Nat → List Redirection → Run Bool
  | 0, _ => tooDeep
  | _ + 1, [] => return true
  | n + 1, r :: rs => do
    if ← redirect n r then redirected n rs
    else
      setStatus 2
      return false

/-- A process that goes on with the script in a context of its own, up to its trap for the end. -/
def subshell : Nat → (Context → Context) → Run Unit → Run Unit
  | 0, _, _ => tooDeep
  | n + 1, change, r => do apart (change (← own)) (finishing n r)

def finishing : Nat → Run Unit → Run Unit
  | 0, _ => tooDeep
  | n + 1, r => do
    match ← attempt r with
    | .error (.killed process signal) => throw (.killed process signal)
    | .error .endless => throw .endless
    | .error .broken => throw .broken
    | _ =>
      let o ← own
      match o.traps.lookup 0 with
      | none => return
      | some action =>
        let traps := o.traps.filter (·.1 != 0)
        modifyOwn ({ · with
          traps := traps, isTested := false, loops := 0, statusBeforeTrap := some o.status })
        match ← attempt (runText n action) with
        | .ok _ | .error .leave => setStatus o.status
        | .error .exit | .error .failed => return
        | .error e => throw e

def runText : Nat → Octets → Run Unit
  | 0, _ => tooDeep
  | n + 1, cs => runLines (exec n) (cs.length + 1) cs

def seeToSignals : Nat → Run Unit
  | 0 => tooDeep
  | n + 1 => do
    let s ← get
    match s.pending with
    | [] => return
    | pending =>
      let o := s.own
      match if o.level = 0 then pending.lookup o.process else none with
      | none => return
      | some signal =>
        set { s with pending := pending.erase (o.process, signal) }
        match o.traps.lookup signal with
        | some action =>
          modifyOwn ({ · with statusBeforeTrap := o.statusBeforeTrap.or (some o.status) })
          withTested false (runText n action)
          modifyOwn ({ · with status := o.status, statusBeforeTrap := o.statusBeforeTrap })
        | none => pure ()
        seeToSignals n

/-- Lets time pass up to a moment, while commands in the background come to their ends. -/
def passUntil : Nat → Nat → Run Unit
  | 0, _ => tooDeep
  | n + 1, moment => do
    let s ← get
    let due := s.jobs.filter fun j ↦ j.work.isSome && j.finish.any (· ≤ min moment s.deadline)
    match due.mergeSort fun a b ↦ a.finish.getD 0 ≤ b.finish.getD 0 with
    | j :: _ =>
      let begun (k : Job) : Job := if k.process = j.process then { k with work := none } else k
      set { s with jobs := s.jobs.map begun }
      match j.work with
      | some (c, o, working) =>
        let before ← get
        set { before with
          elapsed := j.start, disk := { before.disk with working := working } }
        let ended ← attempt (subshell n (fun _ ↦ o) (exec n c))
        modify fun s ↦
          { s with
            own := before.own
            elapsed := max before.elapsed (j.finish.getD 0)
            disk := { s.disk with working := before.disk.working } }
        match ended with
        | .error (.killed process signal) => throw (.killed process signal)
        | _ => passUntil n moment
      | none => passUntil n moment
    | [] =>
      set { s with elapsed := max s.elapsed (min moment s.deadline) }
      if moment ≥ s.deadline then throw .endless

/-- A command in the background is run up to where it first sleeps, and done in full at the time
when it ends. -/
def startJob : Nat → Command → Run Unit
  | 0, _ => tooDeep
  | n + 1, c => do
    let process ← fresh
    let nothing ← openAs (.reading [] false)
    let before ← get
    let o := before.own
    let inner := { o.inner with
      isTested := false
      descriptors := (0, nothing) :: o.descriptors.filter (·.1 != 0) }
    let whole := subshell n (fun _ ↦ inner) (exec n c)
    let goOn (s : State) (finish : Option Nat) (status : Nat) (work : Option _) : Run Unit := do
      let j : Job := ⟨process, before.elapsed, finish, status, work⟩
      set { s with
        own := { o with status := 0, lastJob := some process }
        disk := { s.disk with working := before.disk.working }
        elapsed := before.elapsed
        deadline := before.deadline
        steps := before.steps
        jobs := j :: s.jobs }
    set { before with deadline := min before.deadline (before.elapsed + 1) }
    let ended ← attempt whole
    let early ← get
    match ended with
    | .error .endless =>
      if early.steps ≥ stepLimit then goOn early none 0 none
      else
        set before
        let ended ← attempt whole
        let late ← get
        let finish := if ended matches .error .endless then none else some late.elapsed
        let work := finish.map fun _ ↦ (c, inner, before.disk.working)
        goOn early finish late.own.status work
    | .error (.killed process signal) => throw (.killed process signal)
    | _ => goOn early (some before.elapsed) early.own.status none

def waitFor : Nat → List Nat → Run Unit
  | 0, _ => tooDeep
  | n + 1, processes => do
    let s ← get
    match s.pending.lookup s.own.process, processes with
    | some signal, _ => setStatus (Signal.status signal)
    | none, [] => return
    | none, process :: rest =>
      match s.jobs.find? (·.process == process) with
      | none =>
        setStatus 127
        waitFor n rest
      | some j =>
        let others := s.jobs.filterMap fun k ↦ if k.work.isSome then k.finish else none
        let next := others.foldl min (j.finish.getD s.deadline)
        if j.finish.any (· ≤ s.elapsed) then
          setStatus j.status
          waitFor n rest
        else
          passUntil n (max next s.elapsed)
          waitFor n processes

def call : Nat → Command → List Octets → Run Unit
  | 0, _, _ => tooDeep
  | n + 1, body, arguments => do
    let o ← own
    if o.locals.length ≥ callLimit then fail
    modifyOwn ({ · with arguments := arguments, loops := 0, locals := [] :: o.locals })
    let ended ← attempt (exec n body)
    for (name, v) in ((← own).locals.head?).getD [] do restore name v
    modifyOwn ({ · with arguments := o.arguments, loops := o.loops, locals := o.locals })
    match ended with
    | .ok _ | .error .leave => return
    | .error e => throw e

def shell : Nat → Octets → List Octets → Run Unit
  | 0, _, _ => tooDeep
  | n + 1, title, ws => do
    let process ← fresh
    let directory ← Builtin.directory
    let start := (← own).start process directory title []
    apart start do
      Builtin.catchSignals
      finishing n do
        let (rest, _, hasCommand) ← Builtin.readOptions true (ws.length + 1) false ws
        let launch (operands : List Octets) : Run Unit :=
          match operands with
          | name :: arguments => modifyOwn ({ · with name := name, arguments := arguments })
          | [] => pure ()
        match hasCommand, rest with
        | true, [] => fail
        | true, command :: operands =>
          launch operands
          runText n command
        | false, [] =>
          runText n ((← readAll? 0).getD [])
        | false, file :: arguments =>
          if (← own).options.contains 's' then
            modifyOwn ({ · with arguments := rest })
            runText n ((← readAll? 0).getD [])
          else
            launch (file :: arguments)
            match (← get).disk.lookup (pathOf file) with
            | .ok (.file content _) => runText n (Text.Octets.ofBytes content.toList)
            | .ok (.device _) => return
            | _ => fail
    modify fun s ↦ { s with caught := s.caught.filter (·.1 != process) }

def runCommand : Nat → List Octets → Run Unit
  | 0, _ => tooDeep
  | _ + 1, [] => return
  | n + 1, name :: arguments => do
    match ← programPath? name with
    | none => setStatus 127
    | some path =>
      match Program.ofPath (← get).disk path name arguments with
      | .ok p => runProgram n p
      | .error .badFormat => shell n name (path :: arguments)
      | .error e => setStatus (refusalStatus e)

def runProgram : Nat → Program → Run Unit
  | 0, _ => tooDeep
  | n + 1, p => do
    let ws := p.arguments
    match p.name with
    | "sh" | "dash" | "bash" => shell n p.title ws
    | "sleep" =>
      match Utility.pauseOf? ws with
      | some pause =>
        passUntil n ((← get).elapsed + pause)
        setStatus 0
      | none => setStatus 1
    | "env" =>
      match Utility.surroundings? ws with
      | none => setStatus 125
      | some (change, command) =>
        let o ← own
        let o := { o with values := change o.values }
        if command.isEmpty then
          print ((exported o.values).flatMap fun (name, value) ↦
            name.toList ++ '=' :: value ++ ['\n'])
        else apart o (runCommand n command)
    | "xargs" =>
      match Utility.portions? ws ((← readAll? 0).getD []) with
      | none => setStatus 1
      | some commands =>
        let nothing ← openAs .nowhere
        let mut worst := 0
        for command in commands do
          keepingDescriptors do
            setDescriptor 0 (some nothing)
            runCommand n command
          worst := max worst (Utility.portionStatus (← own).status)
        setStatus worst
    | "timeout" =>
      match Utility.limit? ws with
      | none => setStatus 125
      | some (limit, status, command) =>
        let before ← get
        let moment := before.elapsed + limit
        if limit = 0 || moment ≥ before.deadline then runCommand n command
        else
          set { before with deadline := moment }
          let ended ← attempt (runCommand n command)
          modify fun s ↦ { s with deadline := before.deadline }
          match ended with
          | .error .endless =>
            modify fun s ↦ { s with elapsed := moment, steps := before.steps, own := before.own }
            setStatus status
          | .error e => throw e
          | .ok _ => return
    | "nohup" | "nice" | "setsid" | "stdbuf" =>
      match Utility.wrapped? p.name ws with
      | some [] => if p.name = "nice" then print "0\n".toList else setStatus 125
      | some command => runCommand n command
      | none => setStatus 125
    | "which" =>
      let flags := ws.takeWhile (·.head? == some '-')
      setStatus (if flags.all (·.tail.all ['a', 's'].contains) then 0 else 2)
      for w in (if ← succeeded then ws.drop flags.length else []) do
        match ← programPath? w with
        | some path => let _ ← write (path ++ ['\n'])
        | none => setStatus 1
    | name =>
      match Utility.table.lookup name with
      | some utility => forgiving (utility ws)
      | none => setStatus (Programs.status name)

def builtin : Nat → String → List Octets → Run Unit
  | 0, _, _ => tooDeep
  | n + 1, name, ws => do
    match name with
    | "eval" =>
      let text := [' '].intercalate ws
      if text.all Arithmetic.isSpace then setStatus 0 else runText n text
    | "." =>
      match ws with
      | [] => fail
      | file :: _ =>
        let d := (← get).disk
        let searchPath := (← value? "PATH").getD []
        let paths := if file.contains '/' then [file]
          else (Program.directories searchPath).map (Program.inDirectory · file)
        match paths.find? fun p ↦ d.isFile (pathOf p) || (d.bytes (pathOf p)).isOk with
        | none => fail
        | some path =>
          let text := Text.Octets.ofBytes ((d.bytes (pathOf path)).toOption.getD .empty).toList
          if text.all Arithmetic.isSpace then setStatus 0
          match ← attempt (runText n text) with
          | .ok _ | .error .leave => return
          | .error e => throw e
    | "exec" =>
      match ws with
      | [] => setStatus 0
      | _ =>
        match ← programPath? (ws.headD []) with
        | none => setStatus 127
        | some path =>
          match Program.ofPath (← get).disk path (ws.headD []) ws.tail with
          | .error .badFormat =>
            modifyOwn ({ · with traps := [] })
            shell n path (path :: ws.tail)
          | .error e => setStatus (refusalStatus e)
          | .ok p =>
            modifyOwn ({ · with traps := [] })
            runProgram n p
        throw .exit
    | "wait" =>
      let (_, ws) ← Builtin.options "" ws
      if ws.isEmpty then
        let jobs := (← get).jobs
        setStatus 0
        waitFor n (jobs.reverse.map Job.process)
        if !((← get).pending.any (·.1 == (← own).process)) then setStatus 0
      else
        waitFor n ((← ws.mapM processOf?).map (·.getD 0))
    | "kill" => kill false ws
    | "jobs" => setStatus 0
    | "type" =>
      setStatus 0
      for w in ws do
        if !(← describe true w) then
          let _ ← write (w ++ ": not found\n".toList)
          setStatus 127
    | _ =>
      match Builtin.table.lookup name with
      | some run => run ws
      | none => setStatus 127

/-- Runs a command with its arguments. A function comes before the shell's own commands, except for
the special ones. -/
def runFields : Nat → Bool → List Octets → Run Unit
  | 0, _, _ => tooDeep
  | _ + 1, _, [] => return
  | n + 1, mayCall, name :: ws => do
    let word := String.ofList name
    let o ← own
    let body? := if mayCall then o.functions.lookup word else none
    if Builtin.isSpecial word then
      if mayCall then builtin n word ws else forgiving (builtin n word ws)
    else
      match body? with
      | some body => call n body ws
      | none =>
        if word = "command" then
          match ws with
          | [['-', 'v']] | [['-', 'V']] => setStatus 0
          | ['-', 'v'] :: w :: _ =>
            let isThere ← describe false w
            setStatus (if isThere then 0 else 127)
          | ['-', 'V'] :: w :: _ =>
            let isThere ← describe true w
            setStatus (if isThere then 0 else 127)
          | ['-', 'p'] :: ws | ['-', '-'] :: ws | ws =>
            if ws.isEmpty then setStatus 0 else runFields n false ws
        else if Builtin.isBuiltin word then forgiving (builtin n word ws)
        else runCommand n (name :: ws)

def exec : Nat → Command → Run Unit
  | 0, _ => tooDeep
  | n + 1, c => do
    match c with
    | .simple assignments words redirections =>
      tick
      modifyOwn ({ · with outputStatus := 0 })
      let fields ← fieldsOfWords n [] words
      let name := String.ofList (fields.headD [])
      let isKept := name == "exec"
      let isBound := Builtin.isSpecial name || fields.isEmpty
      let run : Run Unit := do
        if ← redirected n redirections then
          let mut saved : List (String × Option Variable) := []
          for (target, w) in assignments do
            let value ← textOfWord n w
            let old := (← own).values[target]?
            if !isBound then saved := (target, old) :: saved
            setValue target value
            if !isBound || isKept then
              modifyOwn fun o ↦
                { o with values := o.values.modify target ({ · with isExported := true }) }
          let after ← own
          if after.options.contains 'x' then
            let shown := assignments.map fun (target, _) ↦
              target.toList ++ '=' :: (((after.values[target]?).bind Variable.value).getD [])
            let _ ← writeTo 2 ('+' :: ' ' :: [' '].intercalate (shown ++ fields) ++ ['\n'])
          if fields.isEmpty then modifyOwn fun o ↦ { o with status := o.outputStatus }
          else thenAlways (runFields n true fields) (for (target, v) in saved do
            restore target v)
        else if Builtin.isSpecial name then fail
      if isKept then run else keepingDescriptors run
      settle
    | .sequence cs => cs.forM (exec n)
    | .both a b =>
      withTested true (exec n a)
      if ← succeeded then exec n b
    | .either a b =>
      withTested true (exec n a)
      if !(← succeeded) then exec n b
    | .negated c =>
      withTested true (exec n c)
      setStatus (if ← succeeded then 1 else 0)
    | .pipe a b =>
      let start := (← get).elapsed
      let steps := (← get).steps
      let (ended, text) ← capture true (subshell n Context.inner (exec n a))
      let leftEnd := (← get).elapsed
      let isOpen ← match ended with
        | .error (.killed process signal) => throw (.killed process signal)
        | .error .endless => pure true
        | _ => pure false
      let isTimed := leftEnd ≥ (← get).deadline
      modify fun s ↦ { s with elapsed := start, steps := if isOpen then steps else s.steps }
      let isEnded ← withText text (subshell n Context.inner (exec n b))
      modify fun s ↦ { s with elapsed := max s.elapsed leftEnd }
      if isOpen && (isEnded || isTimed || text.isEmpty) then throw .endless
      settle
    | .choose test yes no =>
      withTested true (exec n test)
      if ← succeeded then exec n yes
      else
        match no with
        | .sequence [] => setStatus 0
        | _ => exec n no
    | .loop runsWhile test body =>
      let turns := repeatFrom stepLimit (fun status ↦ do
        let (goesOn, isComplete) ← turn (withTested true (exec n test))
        if !isComplete then return (status, goesOn)
        else if (← succeeded) == runsWhile then
          let (goesOn, _) ← turn (exec n body)
          return ((← own).status, goesOn)
        else return (status, false)) 0
      inLoop do setStatus (← turns)
    | .each name items body =>
      let values ← fieldsOfWords n [[]] items
      setStatus 0
      inLoop do
        for value in values.tail do
          setValue (← Builtin.checkName name.toList) value
          let (goesOn, _) ← turn (exec n body)
          if !goesOn then break
    | .select w arms =>
      let text ← textOfWord n w
      for (patterns, body) in arms do
        let found ← patterns.anyM fun p ↦
          return matchesPattern (patternOf (Mark.patternTextOf (← expand n false p))) text
        if found then
          match body with
          | .sequence [] => setStatus 0
          | _ => exec n body
          return
      setStatus 0
    | .isolated c redirections =>
      keepingDescriptors do
        if ← redirected n redirections then
          subshell n Context.inner (exec n c)
      settle
    | .background c => startJob n c
    | .define name body =>
      modifyOwn fun o ↦
        { o with functions := (name, body) :: o.functions.filter (·.1 != name) }
      setStatus 0
    | .redirected c redirections =>
      let isDone ← keepingDescriptors do
        if ← redirected n redirections then
          exec n c
          return true
        else return false
      if !isDone then settle
    if !(← get).pending.isEmpty then seeToSignals n

end

def depthLimit : Nat := 6000

structure Ending where
  status : Option ExitStatus
  /-- In milliseconds. -/
  elapsed : Nat
  disk : Disk

def firstProcess : Nat := 1000

/-- Runs a program as a process with an environment, up to a time; its descriptors lead nowhere. -/
def run (d : Disk) (env : Properties) (deadline : Nat) (p : Program) : Ending :=
  let values : Variables := env.foldl (fun vs name value ↦
    vs.insert name ⟨some (Text.Octets.ofText value), true, false⟩) ∅
  let working := Text.Octets.ofText (Disk.pathOf d.working).text
  let context := Context.start
    { values := values, functions := [], documents := [], name := [], arguments := [], status := 0,
      options := [], isTested := false, loops := 0, locals := [], traps := [],
      process := firstProcess - 1, level := 0, lastJob := none,
      descriptors := [(0, 0), (1, 0), (2, 0)], optionOffset := 0, outputStatus := 0,
      statusBeforeTrap := none } firstProcess working [] []
  let start : State :=
    { own := context, disk := d, elapsed := 0, deadline := deadline, steps := 0,
      opened := [(0, .nowhere)], next := firstProcess, jobs := [], caught := [], pending := [] }
  let (ended, s) := (runProgram depthLimit p).run start
  let status := match ended with
    | .error .endless => none
    | .error (.killed _ signal) => some (.signal signal (Signal.fullName signal))
    | _ => some (.code s.own.status)
  let status := if s.elapsed ≥ deadline then none else status
  ⟨status, s.elapsed, s.disk⟩

end Reactor.Shell
