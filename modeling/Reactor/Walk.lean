import Reactor.Detector
import Reactor.Ignore.Layer

namespace Reactor

def excludedNames : List String := ["target", "build", ".git", ".gradle", ".m2", "node_modules"]

def isExcludedName (name : String) : Bool := excludedNames.contains name

namespace Walk

def depthLimit : Nat := 32

structure Origin where
  start : Path
  real : Path
  above : List IgnoreLayer
  userRules : IgnoreFile

namespace Origin

def ofDisk (d : Disk) (userRules : IgnoreFile) (start : Path) : Origin :=
  match d.resolve start true with
  | .ok place => ⟨start, Disk.pathOf place, IgnoreLayer.above d place, userRules⟩
  | .error _ => ⟨start, start, [], userRules⟩

variable (o : Origin)

def realPath (path : Path) : Path :=
  let below := IgnoreFile.dropLead o.start.chars path.chars
  o.real.join ⟨String.ofList (IgnoreFile.dropLead ['/'] below)⟩

/-- Layers below the start know a directory by its path on the walk, those above by its real one. -/
def isIgnored (layers : List IgnoreLayer) (path : Path) : Bool :=
  IgnoreCase.isIgnored
    ⟨layers.map (·, path) ++ o.above.map (·, o.realPath path), o.userRules, path⟩

def events : List Event :=
  match o.above.reverse.flatMap IgnoreLayer.faults with
  | [] => []
  | faults =>
    [{ level := .warn, message := "Failed to read directory entry"
       fields := [("error", .text ("\n".intercalate faults))] }]

end Origin

variable (d : Disk)

/-- Links are not entered, and directories with build output or with what the ignore rules name are
left out with all that they hold. -/
def below (o : Origin) : Nat → List IgnoreLayer → Path → List Path
  | 0, _, _ => []
  | n + 1, layers, directory =>
    let entries := ((d.list directory).toOption.getD []).filter DirEntry.isDirectory
    entries.flatMap fun e ↦
      if isExcludedName e.name || o.isIgnored layers e.path then []
      else e.path :: below o n (IgnoreLayer.ofDirectory d e.path :: layers) e.path

/-- A start that is a link is not itself one of the directories. -/
def directories (o : Origin) : List Path :=
  (if d.kind? o.start = some .directory then [o.start] else [])
    ++ below d o depthLimit [IgnoreLayer.ofDirectory d o.start] o.start

/-- A directory that cannot be listed is left out. -/
def visits (files : FileView) : List Path → List Visit × List Event
  | [] => ([], [])
  | p :: ps =>
    let (visits, events) := visits files ps
    match files.list p with
    | .ok entries => ((p, entries) :: visits, events)
    | .error e =>
      (visits, .warn s!"Skipping unreadable directory {p.text}: {e.message}" :: events)

end Walk

namespace Detector

def completeEvent (root : Path) (s : Survey) : Event :=
  { level := .info, message := "Detection complete"
    fields := [("root", .text root.text), ("projects", .number s.projects.length),
      ("descriptors", .number s.forest.size)] }

def detectTree (disk : Disk) (userRules : IgnoreFile) (d : Detector) (f : Forest) (root : Path) :
    Except String Survey :=
  if disk.isDirectory root then
    let o := Walk.Origin.ofDisk disk userRules root
    let (visits, events) := Walk.visits d.files (Walk.directories disk o)
    let s := Survey.ofVisits d visits { Survey.ofForest f with events := o.events ++ events }
    .ok { s with events := s.events ++ [completeEvent root s] }
  else .error s!"Failed to read directory {root.text}: not a directory"

end Detector

end Reactor
