import Reactor.Descriptor

namespace Reactor

namespace Descriptor

variable (d : Descriptor)

def builtinsUnder (pre : String) : List (String × String) :=
  let own := d.coordinate
  [(pre ++ ".groupId", own.group), (pre ++ ".artifactId", own.artifact)]
    ++ (own.version.map fun v ↦ (pre ++ ".version", v)).toList
    ++ match d.parentCoordinate? with
      | none => []
      | some p =>
        [(pre ++ ".parent.groupId", p.group), (pre ++ ".parent.artifactId", p.artifact)]
          ++ (p.version.map fun v ↦ (pre ++ ".parent.version", v)).toList

def builtins : List (String × String) :=
  d.builtinsUnder "project" ++ d.builtinsUnder "pom"
    ++ ((d.parentCoordinate?.bind Coordinate.version).map fun v ↦ ("parent.version", v)).toList

/-- From the weakest to the strongest: the base, the ancestors, which are given root-most first, the
descriptor's own properties, and the built-in names, which always speak of the descriptor itself. -/
def scope (ancestors : List Descriptor) (base : Option Properties) : Properties :=
  let inherited := ancestors.foldl (fun m a ↦ m.layer a.properties) (base.getD ∅)
  d.builtins.foldl (fun m p ↦ m.insert p.1 p.2) (inherited.layer d.properties)

end Descriptor

def Coordinate.resolve (c : Coordinate) (scope : Properties) : Coordinate where
  group := substitute c.group scope
  artifact := substitute c.artifact scope
  version := c.version.map (substitute · scope)

end Reactor
