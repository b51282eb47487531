import Reactor.CommandLine
import Reactor.Ignore.User
import Reactor.Rendering
import Reactor.Walk

namespace Reactor

structure Outcome where
  exitCode : Nat
  output : String
  /-- Remarks for the user that are no log events. -/
  notes : List String
  events : List Event
  disk : Disk

namespace Session

def version : String := "0.1.0"

def name : String := "pomdetect"

def settingsNote : String :=
  "Please check your environment variables and command-line arguments."

/-- The settings of a run; the command line wins over the environment. -/
def config (g : Given) (env : Environment) : Config :=
  let c := Config.ofEnvironment env
  { c with
    renderEffective := g.renderEffective || c.renderEffective
    renderTimeout := g.renderTimeout.getD c.renderTimeout
    localRepository := g.localRepository.or c.localRepository }

variable (d : Disk)

def failed (message : String) (notes : List String) (events : List Event) : Outcome :=
  ⟨1, "", notes, events ++ [.error message], d⟩

def deliver (g : Given) (report : String) (events : List Event) : Outcome :=
  match g.output with
  | none => ⟨0, report ++ "\n", [], events, d⟩
  | some file =>
    let message := s!"Output written to: {file.text}"
    match d.write file report.toUTF8 with
    | .ok d => ⟨0, if g.quiet then "" else message ++ "\n", [], events ++ [.info message], d⟩
    | .error e => failed d s!"Failed to write output to file: {e.message}" [] events

def report (g : Given) (c : Config) (env : Environment) (root : Path) : Outcome :=
  let events := [Event.info s!"Analyzing repository: {root.text}"]
  match c.survey d env (UserRules.ofDisk d env) root with
  | .error message => failed d s!"Detection failed: {message}" [] events
  | .ok (s, d) =>
    deliver d g (Report.write (g.format.getD .human) s.projects) (events ++ s.events)

def detect (g : Given) (env : Environment) : Outcome :=
  let path := g.path.getD (Disk.pathOf d.working)
  if d.isDirectory path then
    match d.canonical path with
    | .error e => failed d s!"Failed to canonicalize repository path: {e.message}" [] []
    | .ok root =>
      let c := config g env
      match c.fault? with
      | some fault => failed d s!"Configuration error: {fault.message}" [settingsNote] []
      | none => report d g c env root
  else failed d s!"Repository path is not a directory: {path.text}" [] []

def levelName? (g : Given) (env : Environment) : Option String :=
  match g.logLevel with
  | some name => some name
  | none =>
    if g.verbose || g.quiet then none
    else some (env["POMDETECT_LOG_LEVEL"]?.getD Config.standardLogLevel)

def level (g : Given) (env : Environment) : Level :=
  match levelName? g env with
  | some name => Level.ofName name
  | none => if g.verbose then .debug else .error

def logSettings (g : Given) (env : Environment) : LogSettings :=
  { LogSettings.plain with
    level := level g env
    asJson := (env["POMDETECT_LOG_JSON"]?.bind Config.readBool?).getD false }

/-- The run of the program; only the events that the level of the log shows are left. -/
def run (arguments : List String) (env : Environment) : Outcome :=
  match CommandLine.read arguments with
  | .error fault =>
    ⟨fault.exitCode, if fault = .displayVersion then s!"{name} {version}\n" else "", [], [], d⟩
  | .ok g =>
    let o := detect d g env
    { o with
      notes := ((levelName? g env).bind Level.note?).toList ++ o.notes
      events := o.events.filter (·.isShownAt (level g env)) }

end Session

end Reactor
