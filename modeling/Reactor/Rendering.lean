import Reactor.Config
import Reactor.Shell.Run
import Reactor.Walk

namespace Reactor

structure Rendering where
  disk : Disk
  environment : Environment
  command : String
  /-- In milliseconds. -/
  timeout : Nat

namespace Rendering

variable (r : Rendering)

def timeoutSeconds : Nat := r.timeout / 1000

def outputName : String := "pomdetect-effective-00000000-0000-4000-8000-000000000000.xml"

def outputPath : Path := (Path.mk (r.environment["TMPDIR"]?.getD "/tmp")).join ⟨outputName⟩

/-- The time is looked at in steps of so many milliseconds. -/
def timeStep : Nat := 50

def deadline : Nat := (r.timeout + timeStep - 1) / timeStep * timeStep

def arguments (path : Path) : List String :=
  ["-q", "-f", path.text, "help:effective-pom", s!"-Doutput={r.outputPath.text}"]

def run (path : Path) : Except RenderFault Shell.Ending :=
  let arguments := (r.arguments path).map Text.Octets.ofText
  match Shell.Program.ofCommand r.disk r.environment r.command arguments with
  | .error e => .error (.notStarted r.command e)
  | .ok p => .ok (Shell.run r.disk r.environment r.deadline p)

def outputText (d : Disk) : Except RenderFault String :=
  match d.bytes r.outputPath with
  | .error e => .error (.noOutput e.message)
  | .ok content =>
    match String.fromUTF8? content with
    | some text => .ok text
    | none => .error (.noOutput invalidText)

/-- What a run that ended comes to. A command that takes as long as its time or longer is stopped,
and what it leaves counts only if it ends well. -/
def result (ending : Shell.Ending) : Except RenderFault String :=
  match ending.status with
  | none => .error (.timedOut r.timeoutSeconds)
  | some (.code 0) => r.outputText ending.disk
  | some status => .error (.exited r.command status)

/-- The disk without the output, unless that is a directory. -/
def cleared (d : Disk) : Disk :=
  match d.resolve r.outputPath false with
  | .ok place => if d.node? place matches some .directory then d else d.remove place
  | .error _ => d

def step (path : Path) : Except RenderFault String × Disk :=
  match r.run path with
  | .error e => (.error e, r.disk)
  | .ok ending => (r.result ending, { r.cleared ending.disk with working := r.disk.working })

def text : Renderer := fun path ↦ (r.step path).1

/-- The effective forms of descriptors, each rendered on the disk that those before left, and the
disk after the last. -/
def texts (r : Rendering) : List Path → List (Path × Except RenderFault String) × Disk
  | [] => ([], r.disk)
  | path :: paths =>
    let (text, disk) := r.step path
    let (rest, last) := texts { r with disk := disk } paths
    ((path, text) :: rest, last)

end Rendering

def Detector.ofConfig (c : Config) (d : Disk) : Detector where
  files := d.view
  table := RuleTable.standard
  repository := c.localRepository.map fun root ↦ ⟨root, d.view⟩
  renderer := none
  isCancelled := false
  maxImportDepth := c.maxImportDepth

def Project.descriptorPath? (d : Disk) (p : Project) : Option Path :=
  ((d.list p.path).toOption.bind descriptorEntry?).map fun e ↦ p.path.join ⟨e.name⟩

/-- All projects below a directory as settings ask for it, and the disk that renderings leave. What
is rendered does not depend on what rendering gives. -/
def Config.survey (c : Config) (d : Disk) (env : Environment) (userRules : IgnoreFile)
    (root : Path) : Except String (Survey × Disk) :=
  let detector := Detector.ofConfig c d
  match detector.detectTree d userRules .empty root with
  | .error e => .error e
  | .ok plain =>
    if c.renderEffective then
      let r : Rendering := ⟨d, env, c.mavenCommand, c.renderTimeout * 1000⟩
      let (texts, after) := r.texts (plain.projects.filterMap (·.descriptorPath? d))
      let renderer : Renderer := fun path ↦ (texts.lookup path).getD (.error .cancelled)
      let detector := { detector with renderer := some renderer }
      (detector.detectTree d userRules .empty root).map (·, after)
    else .ok (plain, d)

end Reactor
