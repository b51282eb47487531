import Reactor.Inference

namespace Reactor

structure Project where
  language : Language
  path : Path
  detectionRule : String
  coordinate : Coordinate
  aggregator : Option Path
  dependencies : List ResolvedDependency
  requirements : List Requirement
  metadata : Metadata
  deriving DecidableEq, Repr

def detectionRule : String := "Inferred by presence of: pom.xml"

def Project.name (p : Project) : String := p.metadata.applicationName.getD p.coordinate.artifact

end Reactor
