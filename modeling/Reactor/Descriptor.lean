import Reactor.Coordinate
import Reactor.Path
import Reactor.Placeholder
import Reactor.Xml.Element

namespace Reactor

structure ParentRef where
  coordinate : Coordinate
  relativePath : Option String
  deriving DecidableEq, Repr

/-- A descriptor as it is written: placeholders stay, and only a project's own group and version are
taken from its parent reference. -/
structure Descriptor where
  path : Path
  coordinate : Coordinate
  parent : Option ParentRef
  packaging : Option String
  modules : List String
  dependencies : List Dependency
  managed : List Dependency
  plugins : List Coordinate
  properties : Properties

inductive DescriptorFault
  | notXml
  | notAProject (root : String)
  | notText (reason : String)
  deriving DecidableEq, Repr

def DescriptorFault.message : DescriptorFault → String
  | notXml => "invalid XML"
  | notAProject root => s!"root element is <{root}>, expected <project>"
  | notText reason => s!"content is not valid UTF-8: {reason}"

namespace Descriptor

variable (d : Descriptor)

def isAggregator : Bool := !d.modules.isEmpty

/-- Shared settings without modules: a parent or an import, not an application. -/
def isParentOnly : Bool := !d.isAggregator && d.packaging == some "pom"

def parentCoordinate? : Option Coordinate := d.parent.map ParentRef.coordinate

def directory : Path := d.path.directory

def key : ArtifactKey := d.coordinate.key

def declares (k : ArtifactKey) : Bool := d.dependencies.any (·.key == k)

open Xml (Element)

def textOf (e : Element) : Option String :=
  e.text?.bind fun cs ↦ Text.trimmed? (String.ofList cs)

def childText (e : Element) (name : String) : Option String := (e.child? name).bind textOf

def readCoordinate (e : Element) : Coordinate where
  group := (childText e "groupId").getD ""
  artifact := (childText e "artifactId").getD ""
  version := childText e "version"

def readDependencies (e : Element) : List Dependency :=
  (e.childrenNamed "dependency").map fun e ↦
    { coordinate := readCoordinate e, scope := childText e "scope", type := childText e "type" }

def readProperties (e : Element) : Properties :=
  e.elements.foldl
    (fun m e ↦ m.insert e.name ((e.text?.map fun cs ↦ String.ofList (Text.trimList cs)).getD ""))
    ∅

def readParent (e : Element) : ParentRef where
  coordinate := readCoordinate e
  relativePath := childText e "relativePath"

/-- Group and version of the parent stand in for those that a project leaves out. -/
def inheritCoordinate (own : Coordinate) (parent : Option ParentRef) : Coordinate :=
  match parent with
  | none => own
  | some p =>
    { own with
      group := if own.group.isEmpty then p.coordinate.group else own.group
      version := own.version.or p.coordinate.version }

def ofProject (path : Path) (root : Element) : Descriptor :=
  let parent := (root.child? "parent").map readParent
  { path, parent
    coordinate := inheritCoordinate (readCoordinate root) parent
    packaging := childText root "packaging"
    modules := ((root.child? "modules").map fun e ↦
      (e.childrenNamed "module").filterMap textOf).getD []
    dependencies := ((root.child? "dependencies").map readDependencies).getD []
    managed := ((root.child? "dependencyManagement").bind fun e ↦
      (e.child? "dependencies").map readDependencies).getD []
    plugins := ((root.child? "build").bind fun e ↦
      (e.child? "plugins").map fun e ↦ (e.childrenNamed "plugin").map readCoordinate).getD []
    properties := ((root.child? "properties").map readProperties).getD ∅ }

def ofRoot (path : Path) (root : Element) : Except DescriptorFault Descriptor :=
  if root.name = "project" then .ok (ofProject path root) else .error (.notAProject root.name)

def ofText (path : Path) (text : String) : Except DescriptorFault Descriptor :=
  match Element.ofText text.toList with
  | .error _ => .error .notXml
  | .ok root => ofRoot path root

end Descriptor

end Reactor
