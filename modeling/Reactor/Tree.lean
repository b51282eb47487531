import Reactor.Project

namespace Reactor

/-- A value with named parts in a fixed order. A tag tells one of several shapes. -/
inductive Tree
  | null
  | bool (b : Bool)
  | text (s : String)
  | list (items : List Tree)
  | record (fields : List (String × Tree))
  | tagged (tag : String) (value : Tree)

namespace Tree

def optional {α : Type} (key : String) (f : α → Tree) : Option α → List (String × Tree)
  | some a => [(key, f a)]
  | none => []

def unlessEmpty {α : Type} (key : String) (f : List α → Tree) (items : List α) :
    List (String × Tree) :=
  if items.isEmpty then [] else [(key, f items)]

def texts (items : List String) : Tree := .list (items.map .text)

def ofCoordinate (c : Coordinate) : Tree :=
  .record [("group_id", .text c.group), ("artifact_id", .text c.artifact),
    ("version", (c.version.map .text).getD .null)]

def ofDependency (d : ResolvedDependency) : Tree :=
  .record [("group_id", .text d.group), ("artifact_id", .text d.artifact),
    ("version", .text d.version), ("scope", .text d.scope)]

def ofRequirement : Requirement → Tree
  | .database kind => .tagged "database" (.text (Kind.id kind))
  | .messageQueue kind destinations =>
    .tagged "message_queue" <| .record
      [("kind", .text (Kind.id kind)), ("destinations", texts destinations)]
  | .eventStream kind names usesAlternateProtocol =>
    .tagged "event_stream" <| .record
      [("kind", .text (Kind.id kind)), ("names", texts names),
        ("uses_alternate_protocol", .bool usesAlternateProtocol)]
  | .objectStorage containers =>
    .tagged "object_storage" (.record [("container_names", texts containers)])

def ofMetadata (m : Metadata) : Tree :=
  .record (optional "application_name" .text m.applicationName
    ++ unlessEmpty "database_names"
      (fun names ↦ .record (names.map fun (kind, name) ↦ (Kind.id kind, .text name)))
      m.databaseNames
    ++ optional "spring_boot_version" .text m.springBootVersion
    ++ unlessEmpty "flags" (fun flags ↦ texts (flags.map Kind.id)) m.flags)

def ofProject (p : Project) : Tree :=
  .record ([("language", .text (Kind.id p.language)), ("path", .text p.path.text),
      ("detection_rule", .text p.detectionRule), ("coordinate", ofCoordinate p.coordinate)]
    ++ optional "parent_aggregator" (.text ·.text) p.aggregator
    ++ [("dependencies", .list (p.dependencies.map ofDependency)),
      ("requirements", .list (p.requirements.map ofRequirement)),
      ("metadata", ofMetadata p.metadata)])

def ofProjects (ps : List Project) : Tree := .list (ps.map ofProject)

def pad (column : Nat) : String := String.ofList (List.replicate column ' ')

end Tree

end Reactor
