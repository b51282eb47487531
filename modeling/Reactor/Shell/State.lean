import Reactor.Placeholder
import Reactor.Shell.Mark

namespace Reactor.Shell

structure Variable where
  /-- None if the variable is only marked. -/
  value : Option Octets
  isExported : Bool
  isFixed : Bool

abbrev Variables := Std.TreeMap String Variable

inductive Opened
  | nowhere
  | endless (isFull : Bool)
  /-- Text that is read up; a reader may have asked for more. -/
  | reading (left : Octets) (isEnded : Bool)
  /-- Text that is gathered, the last part first; a pipe takes only so much. -/
  | gathering (parts : List Octets) (size : Nat) (isPipe : Bool)
  | file (place : Place) (offset : Nat) (appends reads writes : Bool)

structure Context where
  values : Variables
  functions : List (String × Command)
  documents : List (Nat × Word)
  name : Octets
  arguments : List Octets
  status : Nat
  options : List Char
  /-- The status of the command at hand is being looked at, so that a failure ends nothing. -/
  isTested : Bool
  loops : Nat
  /-- For each function that goes on, the variables to be put back. -/
  locals : List (List (String × Option Variable))
  /-- What is done on a signal, or with number zero at the end. -/
  traps : List (Nat × Octets)
  process : Nat
  level : Nat
  lastJob : Option Nat
  descriptors : List (Nat × Nat)
  optionOffset : Nat
  outputStatus : Nat
  statusBeforeTrap : Option Nat

/-- A command that goes on beside others until some time, when it is run; none if that never
comes. -/
structure Job where
  process : Nat
  start : Nat
  finish : Option Nat
  status : Nat
  work : Option (Command × Context × Place)

structure State where
  own : Context
  disk : Disk
  /-- In milliseconds. -/
  elapsed : Nat
  deadline : Nat
  steps : Nat
  opened : List (Nat × Opened)
  next : Nat
  jobs : List Job
  /-- The signals that a process catches; it passes those over that have no text. -/
  caught : List (Nat × List (Nat × Octets))
  pending : List (Nat × Nat)

inductive Flow
  | exit
  /-- An error, which ends the process unless a command that may go wrong stands around it. -/
  | failed
  | leave
  | stop (levels : Nat)
  | next (levels : Nat)
  | killed (process signal : Nat)
  | broken
  | endless
  deriving DecidableEq, Repr

abbrev Run := ExceptT Flow (StateM State)

namespace Run

def own : Run Context := return (← get).own

def modifyOwn (f : Context → Context) : Run Unit := modify fun s ↦ { s with own := f s.own }

def setStatus (n : Nat) : Run Unit := modifyOwn ({ · with status := n % 256 })

def succeeded : Run Bool := return (← own).status == 0

def fail {α : Type} : Run α := do
  setStatus 2
  throw .failed

def attempt {α : Type} (r : Run α) : Run (Except Flow α) := fun s ↦
  let (ended, s) := r s
  (.ok ended, s)

def thenAlways {α : Type} (r : Run α) (after : Run Unit) : Run α := do
  let ended ← attempt r
  after
  match ended with
  | .ok a => return a
  | .error e => throw e

def fresh : Run Nat := modifyGet fun s ↦ (s.next, { s with next := s.next + 1 })

/-- Time passes only where a script sleeps, and steps are counted, so that a script that goes on
forever is told from one that ends. -/
def stepLimit : Nat := 400000

def tick : Run Unit := do
  let s ← get
  set { s with steps := s.steps + 1 }
  if s.steps ≥ stepLimit then throw .endless

def value? (name : String) : Run (Option Octets) :=
  return ((← own).values[name]?).bind Variable.value

def valueD (name : String) : Run Octets := return (← value? name).getD []

/-- Assigns a variable, which must not be fixed. -/
def setValue (name : String) (value : Octets) : Run Unit := do
  let o ← own
  let v := (o.values[name]?).getD ⟨none, o.options.contains 'a', false⟩
  if v.isFixed then fail
  modifyOwn ({ · with values := o.values.insert name { v with value := some value } })
  if name = "OPTIND" then modifyOwn ({ · with optionOffset := 0 })

def setNumber (name : String) (n : Int) : Run Unit := setValue name (toString n).toList

/-- Puts a variable back as it was; a hyphen stands for the options. -/
def restore (name : String) (v : Option Variable) : Run Unit :=
  modifyOwn fun o ↦
    match name, v with
    | "-", v => { o with options := (v.bind Variable.value).getD [] }
    | _, some v => { o with values := o.values.insert name v }
    | _, none => { o with values := o.values.erase name }

def exported (values : Variables) : List (String × Octets) :=
  values.toList.filterMap fun (name, v) ↦
    if v.isExported then v.value.map (name, ·) else none

def openAs (o : Opened) : Run Nat := do
  let id ← fresh
  modify fun s ↦ { s with opened := (id, o) :: s.opened }
  return id

def setOpened (id : Nat) (o : Opened) : Run Unit :=
  modify fun s ↦ { s with opened := (id, o) :: s.opened.filter (·.1 != id) }

def setDescriptor (descriptor : Nat) (id : Option Nat) : Run Unit :=
  modifyOwn fun o ↦
    let others := o.descriptors.filter (·.1 != descriptor)
    { o with descriptors := match id with
        | some id => (descriptor, id) :: others
        | none => others }

def descriptorId? (descriptor : Nat) : Run (Option Nat) :=
  return (← own).descriptors.lookup descriptor

def opened? (descriptor : Nat) : Run (Option (Nat × Opened)) := do
  match ← descriptorId? descriptor with
  | some id => return ((← get).opened.lookup id).map (id, ·)
  | none => return none

/-- How much a pipe takes that nobody reads. -/
def pipeLimit : Nat := 8000000

def endlessLength : Nat := 1000000

def spliced (content : List UInt8) (offset : Nat) (bytes : List UInt8) : ByteArray :=
  let before := content.take offset
  let gap := List.replicate (offset - content.length) 0
  ⟨(before ++ gap ++ bytes ++ content.drop (offset + bytes.length)).toArray⟩

def writeTo (descriptor : Nat) (cs : Octets) : Run Bool := do
  match ← opened? descriptor with
  | none => return cs.isEmpty
  | some (id, o) =>
    match o with
    | .nowhere => return true
    | .endless isFull => return !isFull || cs.isEmpty
    | .reading .. => return cs.isEmpty
    | .gathering parts size isPipe =>
      setOpened id (.gathering (cs :: parts) (size + cs.length) isPipe)
      if isPipe && size + cs.length > pipeLimit then throw .broken
      return true
    | .file place offset appends reads writes =>
      if !writes then return cs.isEmpty
      let d := (← get).disk
      match d.node? place with
      | some (.file content isExecutable) =>
        let offset := if appends then content.size else offset
        let content := if offset = content.size then content ++ ⟨(Text.Octets.bytes cs).toArray⟩
          else spliced content.toList offset (Text.Octets.bytes cs)
        modify fun s ↦ { s with disk := d.put place (.file content isExecutable) }
        setOpened id (.file place (offset + cs.length) appends reads writes)
        return true
      | _ => return true

def write (cs : Octets) : Run Bool := writeTo 1 cs

def print (cs : Octets) : Run Unit := do
  let isWritten ← write cs
  setStatus (if isWritten then 0 else 1)

def left? (descriptor : Nat) : Run (Option Octets) := do
  match ← opened? descriptor with
  | some (_, .nowhere) => return some []
  | some (_, .endless _) => return some (List.replicate endlessLength '\x00')
  | some (_, .reading cs _) => return some cs
  | some (_, .file place offset _ true _) =>
    match (← get).disk.node? place with
    | some (.file content _) => return some (Text.Octets.ofBytes (content.toList.drop offset))
    | _ => return none
  | _ => return none

def consume (descriptor count : Nat) : Run Unit := do
  match ← opened? descriptor with
  | some (id, .reading cs e) => setOpened id (.reading (cs.drop count) e)
  | some (id, .file place offset a r w) => setOpened id (.file place (offset + count) a r w)
  | _ => return

def askForMore (descriptor : Nat) : Run Unit := do
  match ← opened? descriptor with
  | some (id, .reading cs _) => setOpened id (.reading cs true)
  | _ => return

/-- Whether what is read never ends, and what is written is not cut off either. -/
def isEndless (descriptor : Nat) : Run Bool := do
  match ← opened? descriptor, ← opened? 1 with
  | some (_, .endless _), some (_, .gathering _ _ true) => return false
  | some (_, .endless _), _ => return true
  | _, _ => return false

def readAll? (descriptor : Nat) : Run (Option Octets) := do
  if ← isEndless descriptor then throw .endless
  let left ← left? descriptor
  consume descriptor (left.getD []).length
  askForMore descriptor
  return left

/-- Whether reading gives text back to other readers of the same file. -/
def isSeekable (descriptor : Nat) : Run Bool := do
  match ← opened? descriptor with
  | some (_, .file ..) => return true
  | _ => return false

def device? (path : Octets) : Option Nat :=
  match String.ofList path with
  | "/dev/stdin" => some 0
  | "/dev/stdout" => some 1
  | "/dev/stderr" => some 2
  | s => if s.startsWith "/dev/fd/" then (String.ofList (path.drop 8)).toNat? else none

inductive Purpose
  | reads
  | writes
  | appends
  | changes
  deriving DecidableEq

def openFile (path : Octets) (p : Purpose) : Run (Except SystemError Nat) := do
  match device? path with
  | some n =>
    match ← descriptorId? n with
    | some id => return .ok id
    | none => return .error .noEntry
  | none =>
    let d := (← get).disk
    let writes := p ≠ .reads
    match d.lookup (pathOf path), p with
    | .ok (.device device), _ =>
      return .ok (← openAs (match device with
        | .nothing => .nowhere
        | .endless => .endless false
        | .full => .endless true))
    | .error e, .reads => return .error e
    | .ok _, .reads =>
      match d.resolve (pathOf path) true with
      | .ok place => return .ok (← openAs (.file place 0 false true false))
      | .error e => return .error e
    | found, _ =>
      let before := match found, p with
        | .ok (.file content _), .appends | .ok (.file content _), .changes => content
        | _, _ => .empty
      match d.write (pathOf path) before with
      | .error e => return .error e
      | .ok after =>
        modify fun s ↦ { s with disk := after }
        match after.resolve (pathOf path) true with
        | .ok place =>
          return .ok (← openAs (.file place 0 (p = .appends) (p = .changes) writes))
        | .error e => return .error e

def capture (isPipe : Bool) (r : Run Unit) : Run (Except Flow Unit × Octets) := do
  let before ← descriptorId? 1
  let id ← openAs (.gathering [] 0 isPipe)
  setDescriptor 1 (some id)
  let ended ← attempt r
  setDescriptor 1 before
  let text := match (← get).opened.lookup id with
    | some (.gathering parts _ _) => parts.reverse.flatten
    | _ => []
  modify fun s ↦ { s with opened := s.opened.filter (·.1 != id) }
  return (ended, text)

def withText (cs : Octets) (r : Run Unit) : Run Bool := do
  let before ← descriptorId? 0
  let id ← openAs (.reading cs false)
  setDescriptor 0 (some id)
  thenAlways r (setDescriptor 0 before)
  let isEnded := match (← get).opened.lookup id with
    | some (.reading _ isEnded) => isEnded
    | _ => false
  modify fun s ↦ { s with opened := s.opened.filter (·.1 != id) }
  return isEnded

def repeatFrom {α : Type} : Nat → (α → Run (α × Bool)) → α → Run α
  | 0, _, _ => throw .endless
  | n + 1, r, a => fun s ↦
    match r a s with
    | (.ok (a, true), s) => repeatFrom n r a s
    | (.ok (a, false), s) => (.ok a, s)
    | (.error e, s) => (.error e, s)

end Run

end Reactor.Shell
