import Reactor.PropertyScope
import Reactor.Rendered
import Reactor.Repository

namespace Reactor

structure EffectiveView where
  coordinate : Coordinate
  /-- One entry for each artifact, in the order of first declaration. -/
  dependencies : List ResolvedDependency
  properties : Properties

structure Managed where
  version : String
  scope : Option String
  deriving DecidableEq, Repr

structure Imported where
  descriptor : Descriptor
  parents : List Descriptor

inductive Request
  | imported (c : Coordinate)
  | parent (c : Coordinate)
  deriving DecidableEq, Repr

def Request.coordinate : Request → Coordinate
  | imported c | parent c => c

/-- The imports met so far, also those that no source has, and all requests, the last one first. -/
structure ImportCache where
  imports : List (Coordinate × Option Imported)
  requests : List Request

def ImportCache.empty : ImportCache := ⟨[], []⟩

/-- A search for one artifact visits each import once. -/
structure Search where
  visited : List String
  cache : ImportCache

structure Synthesizer where
  sources : List Source
  maxImportDepth : Nat

namespace Dependency

def resolvedKey (d : Dependency) (scope : Properties) : ArtifactKey :=
  (d.coordinate.resolve scope).key

def pinned? (d : Dependency) (scope : Properties) : Option Managed :=
  d.coordinate.version.map fun v ↦ ⟨substitute v scope, d.scope.map (substitute · scope)⟩

end Dependency

/-- The entry that manages an artifact in `layers`; imports and entries without a version do not
count. -/
def managedIn? (layers : List Descriptor) (scope : Properties) (key : ArtifactKey) :
    Option Managed :=
  (layers.flatMap Descriptor.managed).findSome? fun m ↦
    if !m.isImport && m.resolvedKey scope == key then m.pinned? scope else none

def importsOf (layers : List Descriptor) (scope : Properties) : List Coordinate :=
  ((layers.flatMap Descriptor.managed).filter Dependency.isImport).map (·.coordinate.resolve scope)

namespace Imported

def scope (i : Imported) : Properties := i.descriptor.scope i.parents.reverse none

def layers (i : Imported) : List Descriptor := i.descriptor :: i.parents

end Imported

namespace Synthesizer

def standardDepth : Nat := 8

/-- A limit of zero counts as one. -/
def ofSources (sources : List Source) (maxImportDepth : Nat) : Synthesizer :=
  ⟨sources, max maxImportDepth 1⟩

variable (s : Synthesizer)

def parentWalk : Nat → List ArtifactKey → Option Coordinate → List (Coordinate × Option Descriptor)
  | 0, _, _ => []
  | _, _, none => []
  | remaining + 1, visited, some c =>
    if c.key ∈ visited then []
    else match loadFrom s.sources c with
      | none => [(c, none)]
      | some d => (c, some d) :: parentWalk remaining (c.key :: visited) d.parentCoordinate?

/-- The walk beyond the root-most of the known ancestors of a descriptor. -/
def parentRequests (start : Descriptor) (knownRootFirst : List Descriptor) :
    List (Coordinate × Option Descriptor) :=
  s.parentWalk s.maxImportDepth (start.key :: knownRootFirst.map Descriptor.key)
    (knownRootFirst.head?.getD start).parentCoordinate?

def externalParents (start : Descriptor) (knownRootFirst : List Descriptor) : List Descriptor :=
  (s.parentRequests start knownRootFirst).filterMap Prod.snd

def logParents (cache : ImportCache) (start : Descriptor) (knownRootFirst : List Descriptor) :
    ImportCache :=
  { cache with
    requests :=
      ((s.parentRequests start knownRootFirst).map fun r ↦ Request.parent r.1).reverse
        ++ cache.requests }

/-- Asks the sources for each import once. -/
def loadImport (c : Coordinate) (cache : ImportCache) : Option Imported × ImportCache :=
  match cache.imports.lookup c with
  | some known => (known, cache)
  | none =>
    let cache := { cache with requests := .imported c :: cache.requests }
    match loadFrom s.sources c with
    | none => (none, { cache with imports := (c, none) :: cache.imports })
    | some d =>
      let imported : Imported := ⟨d, s.externalParents d []⟩
      let cache := s.logParents cache d []
      (some imported, { cache with imports := (c, some imported) :: cache.imports })

def visit (c : Coordinate) : StateM Search (Option Imported) := fun search ↦
  if c.text ∈ search.visited then (none, search)
  else
    let (imported, cache) := s.loadImport c search.cache
    (imported, ⟨c.text :: search.visited, cache⟩)

/-- The managed entry of an artifact: that of the layers, else that of the first import that has
one, at most `remaining` imports away. -/
def lookupManaged (key : ArtifactKey) :
    Nat → List Descriptor → Properties → StateM Search (Option Managed)
  | 0, layers, scope => pure (managedIn? layers scope key)
  | remaining + 1, layers, scope =>
    match managedIn? layers scope key with
    | some managed => pure managed
    | none => (importsOf layers scope).findSomeM? fun c ↦ do
      match ← s.visit c with
      | none => return none
      | some imported => lookupManaged key remaining imported.layers imported.scope

/-- A rendered version stands in where nothing manages the artifact. -/
def managedFor (key : ArtifactKey) (layers : List Descriptor) (scope : Properties)
    (rendered : Option Rendered) : StateM ImportCache (Option Managed) := fun cache ↦
  let (managed, search) := s.lookupManaged key s.maxImportDepth layers scope ⟨[], cache⟩
  (managed.or ((rendered.bind (·.version? key)).map (⟨·, none⟩)), search.cache)

end Synthesizer

/-- Declared dependencies with their substituted keys; the first of a key counts. -/
def firstPerKey : List ArtifactKey → List (ArtifactKey × Dependency) →
    List (ArtifactKey × Dependency)
  | _, [] => []
  | seen, (key, d) :: rest =>
    if key ∈ seen then firstPerKey seen rest else (key, d) :: firstPerKey (key :: seen) rest

def declarations (layers : List Descriptor) (scope : Properties) :
    List (ArtifactKey × Dependency) :=
  firstPerKey [] ((layers.flatMap Descriptor.dependencies).map fun d ↦ (d.resolvedKey scope, d))

def defaultScope : String := "compile"

/-- What the declaration says wins over what the managed entry says. -/
def resolvedDependency (key : ArtifactKey) (d : Dependency) (scope : Properties)
    (managed : Option Managed) : ResolvedDependency where
  group := key.group
  artifact := key.artifact
  version := (d.coordinate.version.map (substitute · scope)).getD
    ((managed.map Managed.version).getD "")
  scope := ((d.scope.map (substitute · scope)).or (managed.bind Managed.scope)).getD defaultScope

namespace Synthesizer

variable (s : Synthesizer)

def build (leaf : Descriptor) (ancestorsRootFirst : List Descriptor) (rendered : Option Rendered) :
    StateM ImportCache EffectiveView := do
  let scope := leaf.scope ancestorsRootFirst (rendered.map Rendered.properties)
  let layers := leaf :: ancestorsRootFirst.reverse
  let dependencies ← (declarations layers scope).mapM fun (key, d) ↦
    return resolvedDependency key d scope (← s.managedFor key layers scope rendered)
  return { coordinate := leaf.coordinate.resolve scope, dependencies, properties := scope }

def synthesize (leaf : Descriptor) (chainRootFirst : List Descriptor)
    (rendered : Option Rendered) : StateM ImportCache EffectiveView := fun cache ↦
  s.build leaf ((s.externalParents leaf chainRootFirst).reverse ++ chainRootFirst) rendered
    (s.logParents cache leaf chainRootFirst)

def synthesizeDetached (leaf : Descriptor) (rendered : Option Rendered) :
    StateM ImportCache EffectiveView :=
  s.build leaf [] rendered

end Synthesizer

end Reactor
