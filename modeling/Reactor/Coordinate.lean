namespace Reactor

structure ArtifactKey where
  group : String
  artifact : String
  deriving DecidableEq, Repr, Inhabited

structure Coordinate where
  group : String
  artifact : String
  version : Option String
  deriving DecidableEq, Repr, Inhabited

structure Dependency where
  coordinate : Coordinate
  scope : Option String
  type : Option String
  deriving DecidableEq, Repr, Inhabited

/-- A dependency of an effective view. An empty version means that nothing pinned it. -/
structure ResolvedDependency where
  group : String
  artifact : String
  version : String
  scope : String
  deriving DecidableEq, Repr, Inhabited

namespace ArtifactKey

def text (k : ArtifactKey) : String := s!"{k.group}:{k.artifact}"

def order (a b : ArtifactKey) : Ordering :=
  (compare a.group b.group).then (compare a.artifact b.artifact)

end ArtifactKey

namespace Coordinate

def key (c : Coordinate) : ArtifactKey := ⟨c.group, c.artifact⟩

def text (c : Coordinate) : String :=
  match c.version with
  | some v => s!"{c.group}:{c.artifact}:{v}"
  | none => s!"{c.group}:{c.artifact}"

end Coordinate

namespace Dependency

def key (d : Dependency) : ArtifactKey := d.coordinate.key

/-- A managed entry that pulls in all that another descriptor manages. -/
def isImport (d : Dependency) : Bool := d.scope == some "import" && d.type == some "pom"

end Dependency

namespace ResolvedDependency

def key (d : ResolvedDependency) : ArtifactKey := ⟨d.group, d.artifact⟩

def isVersioned (d : ResolvedDependency) : Bool := !d.version.isEmpty

def text (d : ResolvedDependency) : String :=
  s!"{d.group}:{d.artifact}:{d.version} ({d.scope})"

end ResolvedDependency

end Reactor
