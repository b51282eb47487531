import Reactor.Forest
import Reactor.Overlay
import Reactor.Project

namespace Reactor

abbrev Renderer := Path → Except RenderFault String

structure Detector where
  files : FileView
  table : RuleTable
  repository : Option Repository
  renderer : Option Renderer
  isCancelled : Bool
  maxImportDepth : Nat

structure Detection where
  forest : Forest
  project : Option Project
  events : List Event

def descriptorEntry? (entries : List DirEntry) : Option DirEntry :=
  entries.find? fun e ↦ !e.isDirectory && isDescriptorFileName e.name

namespace Detector

variable (d : Detector) (f : Forest)

def preload (path : Path) : Except Failure (Forest × NodeId) :=
  match f.idOf? path with
  | some id => .ok (f, id)
  | none => (Descriptor.read d.files path).map f.register

def sources : List Source := f.load :: (d.repository.map Repository.load).toList

def synthesizer : Synthesizer := .ofSources (d.sources f) d.maxImportDepth

def effectiveText (renderer : Renderer) (path : Path) : Except Failure String :=
  (if d.isCancelled then .error .cancelled else renderer path).mapError (Failure.unavailable path)

def render (path : Path) (leaf : Descriptor) : Option (Except Failure Rendered) :=
  d.renderer.map fun renderer ↦
    match d.effectiveText renderer path with
    | .ok text => Rendered.ofText path text leaf.coordinate
    | .error e => .error e

/-- What the local repository could not supply for a request that reached it. -/
def requestEvent? (r : Request) : Option Event :=
  match f.load r.coordinate with
  | some _ => none
  | none => (d.repository.bind (·.fault? r.coordinate)).map fun e ↦
      .warn s!"Ignoring unreadable repository descriptor: {e.message}"

def view (leaf : Descriptor) (lineage : Option Lineage) (rendered : Option Rendered) :
    EffectiveView × ImportCache :=
  let s := d.synthesizer f
  (match lineage with
    | some l => s.synthesize leaf (l.chain.reverse.filterMap (f.nodes[·]?)) rendered
    | none => s.synthesizeDetached leaf rendered) ImportCache.empty

def lineageEvents : Except Failure Lineage → List Event
  | .ok _ => []
  | .error e => [.warn s!"{e.message}; resolving without a parent"]

def renderEvents : Option (Except Failure Rendered) → List Event
  | some (.error e) => [.warn s!"{e.message}; falling back to local resolution"]
  | _ => []

def detectedEvent (p : Project) : Event :=
  { level := .info, message := "Detected Java project"
    fields := [("path", .text p.path.text), ("coordinate", .text p.coordinate.text),
      ("requirements", .number p.requirements.length)] }

/-- All that is inferred about a leaf of the forest. A cycle of parents or a failed rendering only
means that they do not contribute. -/
def analyse (directory path : Path) (leaf : Descriptor) : Project × List Event :=
  let found := f.lineage leaf
  let lineage := found.toOption
  let rendering := d.render path leaf
  let (view, cache) := d.view f leaf lineage (rendering.bind Except.toOption)
  let owner := (lineage.bind Lineage.owner).bind (f.nodes[·]?)
  let (overlay, faults) := Overlay.load d.files directory
  let inference := infer d.table leaf owner view leaf.plugins overlay
  let project : Project :=
    { language := .java
      path := directory
      detectionRule := detectionRule
      coordinate := view.coordinate
      aggregator := owner.map Descriptor.path
      dependencies := view.dependencies
      requirements := inference.requirements
      metadata := inference.metadata }
  (project,
    lineageEvents found ++ renderEvents rendering
      ++ cache.requests.reverse.filterMap (d.requestEvent? f)
      ++ faults.map Overlay.Fault.event
      ++ (d.table.findings view.dependencies overlay).flatMap Finding.events
      ++ [detectedEvent project])

/-- No project is in a directory without a descriptor, nor in one whose descriptor has modules or is
a parent only. -/
def detect (directory : Path) (entries : List DirEntry) : Except Failure Detection :=
  match descriptorEntry? entries with
  | none => .ok ⟨f, none, []⟩
  | some entry =>
    let path := directory.join ⟨entry.name⟩
    match d.preload f path with
    | .error e => .error e
    | .ok (f, id) =>
      match f.nodes[id]? with
      | none => .ok ⟨f, none, []⟩
      | some leaf =>
        if leaf.isAggregator || leaf.isParentOnly then .ok ⟨f, none, []⟩
        else
          let (project, events) := d.analyse f directory path leaf
          .ok ⟨f, some project, events⟩

end Detector

abbrev Visit := Path × List DirEntry

structure Survey where
  forest : Forest
  projects : List Project
  events : List Event

namespace Survey

def ofForest (f : Forest) : Survey := ⟨f, [], []⟩

def skipping (s : Survey) (e : Failure) : Survey :=
  { s with events := s.events ++ [.warn s!"Skipping descriptor: {e.message}"] }

variable (d : Detector)

def preload (s : Survey) (visit : Visit) : Survey :=
  match descriptorEntry? visit.2 with
  | none => s
  | some entry =>
    match d.preload s.forest (visit.1.join ⟨entry.name⟩) with
    | .ok (f, _) => { s with forest := f }
    | .error e => s.skipping e

def detect (s : Survey) (visit : Visit) : Survey :=
  match d.detect s.forest visit.1 visit.2 with
  | .error e => s.skipping e
  | .ok found =>
    { forest := found.forest
      projects := s.projects ++ found.project.toList
      events := s.events ++ found.events }

def cancelled (s : Survey) : Survey :=
  { s with events := s.events ++ [.warn "Detection cancelled"] }

/-- All descriptors are registered before the first project is looked for. -/
def ofVisits (visits : List Visit) (s : Survey) : Survey :=
  let s := visits.foldl (preload d) s
  if d.isCancelled && !visits.isEmpty then s.cancelled else visits.foldl (detect d) s

end Survey

end Reactor
