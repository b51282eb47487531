import Reactor.Classification
import Reactor.EffectiveView

namespace Reactor

structure Metadata where
  applicationName : Option String
  databaseNames : List (DatabaseKind × String)
  springBootVersion : Option String
  flags : List MetadataFlag
  deriving DecidableEq, Repr

structure Inference where
  requirements : List Requirement
  metadata : Metadata
  deriving DecidableEq, Repr

def applicationNameKey : String := "spring.application.name"

def datasourceUrlKey : String := "spring.datasource.url"

def isDatabaseNameChar (c : Char) : Bool := ('a' ≤ c && c ≤ 'z') || c.isDigit

def isDatabaseName (name : List Char) : Bool :=
  3 ≤ name.length && name.length ≤ 63
    && (Text.cut '-' name).all fun block ↦ !block.isEmpty && block.all isDatabaseNameChar

def databaseKindOfUrl? (url : String) : Option DatabaseKind :=
  if "jdbc:postgresql".toList.isPrefixOf url.toList then some .postgres
  else if "jdbc:mysql".toList.isPrefixOf url.toList then some .mySql
  else none

/-- The part of a URL that names a database: from the last slash up to a question mark. -/
def databasePart? (url : List Char) : Option (List Char) :=
  if url.contains '/' then
    some (((Text.cut '/' url).getLastD []).takeWhile (· ≠ '?'))
  else none

def databaseOfUrl? (url : String) : Option (DatabaseKind × String) := do
  let kind ← databaseKindOfUrl? url
  let name ← databasePart? url.toList
  if isDatabaseName name then some (kind, String.ofList name) else none

namespace Descriptor

/-- The version of the framework: that of the starter parent, else that of the first managed entry
for the framework's dependencies. -/
def springBootVersion? (d : Descriptor) (properties : Properties) : Option String :=
  let ofParent := (d.parentCoordinate?.filter (·.artifact == frameworkStarter)).bind
    Coordinate.version
  let ofManaged := (d.managed.find? (·.coordinate.artifact == frameworkDependencies)).bind
    (·.coordinate.version)
  (ofParent.or ofManaged).map (substitute · properties)
where
  frameworkStarter : String := "spring-boot-starter-parent"
  frameworkDependencies : String := "spring-boot-dependencies"

end Descriptor

/-- The leaf is asked for the framework's version before the aggregator that owns it. -/
def infer (table : RuleTable) (leaf : Descriptor) (owner : Option Descriptor)
    (view : EffectiveView) (plugins : List Coordinate) (overlay : Properties) : Inference where
  requirements := table.classify view.dependencies overlay
  metadata :=
    { applicationName := overlay[applicationNameKey]?
      databaseNames := (overlay[datasourceUrlKey]?.bind databaseOfUrl?).toList
      springBootVersion := (leaf.springBootVersion? view.properties).or
        (owner.bind fun o ↦ o.springBootVersion? o.properties)
      flags := table.flags view.dependencies plugins }

end Reactor
