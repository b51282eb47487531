import Reactor.Failure

namespace Reactor

abbrev Source := Coordinate → Option Descriptor

def loadFrom (sources : List Source) (c : Coordinate) : Option Descriptor :=
  sources.findSome? (· c)

structure Repository where
  root : Path
  files : FileView

namespace Repository

variable (r : Repository)

def layout (c : Coordinate) (version : String) : List String :=
  (Text.cut '.' c.group.toList).map String.ofList
    ++ [c.artifact, version, s!"{c.artifact}-{version}.pom"]

/-- Where a coordinate is stored; only one with a group, an artifact and a version free of
placeholders is. -/
def descriptorPath? (c : Coordinate) : Option Path :=
  match c.version with
  | none => none
  | some version =>
    if version.isEmpty || hasPlaceholder version || c.group.isEmpty || c.artifact.isEmpty then none
    else some ((layout c version).foldl (fun p step ↦ p.join ⟨step⟩) r.root)

/-- What reading a stored descriptor gives; `none` if it is not stored. -/
def read? (c : Coordinate) : Option (Except Failure Descriptor) :=
  ((r.descriptorPath? c).filter r.files.isFile).map (Descriptor.read r.files)

def load (c : Coordinate) : Option Descriptor := (r.read? c).bind Except.toOption

def fault? (c : Coordinate) : Option Failure :=
  match r.read? c with
  | some (.error e) => some e
  | _ => none

end Repository

end Reactor
