import Reactor.Config
import Reactor.Report

namespace Reactor

inductive UsageFault
  | displayHelp
  | displayVersion
  | missingArguments
  | missingSubcommand
  | invalidSubcommand
  | unknownArgument
  | conflict
  | invalidValue
  | valueValidation
  | tooManyValues
  deriving DecidableEq, Repr

def UsageFault.exitCode : UsageFault → Nat
  | displayHelp | displayVersion => 0
  | _ => 2

inductive Setting
  | logLevel
  | verbose
  | quiet
  | path
  | format
  | renderEffective
  | renderTimeout
  | localRepository
  | output
  | help
  | version
  deriving DecidableEq, Repr

namespace Setting

def takesValue : Setting → Bool
  | logLevel | path | format | renderTimeout | localRepository | output => true
  | _ => false

end Setting

inductive Stage
  | front
  | detect
  deriving DecidableEq, Repr

namespace Stage

def common : List (String × Option Char × Setting) :=
  [("log-level", none, .logLevel), ("verbose", some 'v', .verbose), ("quiet", some 'q', .quiet),
    ("help", some 'h', .help)]

def options : Stage → List (String × Option Char × Setting)
  | front => ("version", some 'V', .version) :: common
  | detect =>
    [("format", some 'f', .format), ("render-effective", none, .renderEffective),
      ("render-timeout", none, .renderTimeout), ("local-repository", none, .localRepository),
      ("output", some 'o', .output)] ++ common

variable (s : Stage)

def ofName? (name : String) : Option Setting :=
  (s.options.find? (·.1 == name)).map fun o ↦ o.2.2

def ofLetter? (c : Char) : Option Setting :=
  (s.options.find? (·.2.1 == some c)).map fun o ↦ o.2.2

end Stage

structure Given where
  logLevel : Option String
  verbose : Bool
  quiet : Bool
  path : Option Path
  format : Option ReportFormat
  renderEffective : Bool
  renderTimeout : Option Nat
  localRepository : Option Path
  output : Option Path
  deriving DecidableEq, Repr

namespace Given

def nothing : Given := ⟨none, false, false, none, none, false, none, none, none⟩

def has (g : Given) : Setting → Bool
  | .logLevel => g.logLevel.isSome
  | .verbose => g.verbose
  | .quiet => g.quiet
  | .path => g.path.isSome
  | .format => g.format.isSome
  | .renderEffective => g.renderEffective
  | .renderTimeout => g.renderTimeout.isSome
  | .localRepository => g.localRepository.isSome
  | .output => g.output.isSome
  | .help | .version => false

def readPath (text : String) : Except UsageFault Path :=
  if text.isEmpty then .error .invalidValue else .ok ⟨text⟩

def set (g : Given) (s : Setting) (text : String) : Except UsageFault Given :=
  match s with
  | .logLevel => .ok { g with logLevel := some text }
  | .verbose => .ok { g with verbose := true }
  | .quiet => .ok { g with quiet := true }
  | .path => (readPath text).map fun p ↦ { g with path := some p }
  | .format =>
    match ReportFormat.ofName? text with
    | some f => .ok { g with format := some f }
    | none => .error .invalidValue
  | .renderEffective => .ok { g with renderEffective := true }
  | .renderTimeout =>
    match Config.readTimeout text with
    | .ok n => .ok { g with renderTimeout := some n }
    | .error _ => .error .valueValidation
  | .localRepository => (readPath text).map fun p ↦ { g with localRepository := some p }
  | .output => (readPath text).map fun p ↦ { g with output := some p }
  | .help => .error .displayHelp
  | .version => .error .displayVersion

/-- A setting is given at most once at a stage. -/
def put (g : Given) (s : Setting) (text : String) : Except UsageFault Given :=
  if g.has s then .error .conflict else g.set s text

/-- Settings of a later stage win over those of an earlier one. -/
def followedBy (g h : Given) : Given where
  logLevel := h.logLevel.or g.logLevel
  verbose := g.verbose || h.verbose
  quiet := g.quiet || h.quiet
  path := h.path.or g.path
  format := h.format.or g.format
  renderEffective := g.renderEffective || h.renderEffective
  renderTimeout := h.renderTimeout.or g.renderTimeout
  localRepository := h.localRepository.or g.localRepository
  output := h.output.or g.output

end Given

/-- What is read of a stage: the settings given, and one whose value has not been looked at, or is
still to come. -/
structure Reading where
  given : Given
  pending : Option (Setting × Option String)
  hasPath : Bool
  /-- A bare `--` has ended the options. -/
  isPlain : Bool

namespace Reading

def start : Reading := ⟨.nothing, none, false, false⟩

variable (r : Reading) (stage : Stage)

def isAwaiting : Bool :=
  match r.pending with
  | some (_, none) => true
  | _ => false

def settle : Except UsageFault Reading :=
  match r.pending with
  | none => .ok r
  | some (_, none) => .error .invalidValue
  | some (s, some text) => (r.given.put s text).map fun g ↦ { r with given := g, pending := none }

def take (s : Setting) (text : String) : Except UsageFault Reading := do
  let r ← r.settle
  return { r with given := ← r.given.put s text }

def await (s : Setting) : Except UsageFault Reading :=
  r.settle.map fun r ↦ { r with pending := some (s, none) }

def long (name : String) (value : Option String) : Except UsageFault Reading :=
  match stage.ofName? name, value with
  | none, _ => .error .unknownArgument
  | some s, some v => if s.takesValue then r.take s v else .error .tooManyValues
  | some s, none => if s.takesValue then r.await s else r.take s ""

/-- Takes letters in a row; what follows an option's letter is its value, with or without `=`. -/
def letters (r : Reading) (stage : Stage) : List Char → Except UsageFault Reading
  | [] => .ok r
  | c :: cs =>
    match stage.ofLetter? c with
    | none => .error .unknownArgument
    | some s =>
      if s.takesValue then
        match cs with
        | [] => r.await s
        | '=' :: value => r.take s (String.ofList value)
        | value => r.take s (String.ofList value)
      else
        match r.take s "" with
        | .ok r => letters r stage cs
        | .error e => .error e

def plain (argument : String) : Except UsageFault Reading :=
  match stage with
  | .front =>
    if r.isPlain && (argument == "detect" || argument == "help") then .error .unknownArgument
    else .error .invalidSubcommand
  | .detect =>
    if r.hasPath then .error .unknownArgument
    else r.settle.map fun r ↦ { r with pending := some (.path, some argument), hasPath := true }

def step (argument : String) : Except UsageFault Reading :=
  if r.isPlain then r.plain stage argument
  else
    match argument.toList with
    | ['-', '-'] => .ok { r with isPlain := true }
    | '-' :: '-' :: cs =>
      let name := String.ofList (cs.takeWhile (· != '='))
      match cs.dropWhile (· != '=') with
      | _ :: value => r.long stage name (some (String.ofList value))
      | [] => r.long stage name none
    | '-' :: c :: cs => r.letters stage (c :: cs)
    | _ =>
      match r.pending with
      | some (s, none) => .ok { r with pending := some (s, some argument) }
      | _ => r.plain stage argument

def finish : Except UsageFault Given := do
  let r ← r.settle
  if r.given.quiet && r.given.verbose then .error .conflict else .ok r.given

end Reading

namespace CommandLine

def helpFault : List String → UsageFault
  | [] | ["detect"] | ["help"] => .displayHelp
  | _ => .invalidSubcommand

def readDetect (arguments : List String) : Except UsageFault Given := do
  (← arguments.foldlM (fun r a ↦ r.step .detect a) Reading.start).finish

def readFront (r : Reading) : List String → Except UsageFault Given
  | [] => do
    let r ← r.settle
    if r.given = .nothing then .error .missingArguments else .error .missingSubcommand
  | a :: rest =>
    if !r.isPlain && !r.isAwaiting && a == "detect" then do
      let given ← readDetect rest
      return (← r.finish).followedBy given
    else if !r.isPlain && !r.isAwaiting && a == "help" then .error (helpFault rest)
    else
      match r.step .front a with
      | .ok r => readFront r rest
      | .error e => .error e

/-- Reads arguments from left to right, and the first that makes no sense is the fault. The value of
an option is looked at when the next known option, the path or the end is reached. -/
def read (arguments : List String) : Except UsageFault Given := readFront .start arguments

end CommandLine

end Reactor
