import Reactor.Failure

namespace Reactor

structure Rendered where
  properties : Properties
  /-- Versions free of placeholders; the first entry of an artifact counts. -/
  versions : List (ArtifactKey × String)

namespace Rendered

open Xml (Element)

def projectOf? (wrapper : Element) (artifact : String) : Option Element :=
  (wrapper.childrenNamed "project").find? fun p ↦
    (((p.child? "artifactId").bind Element.text?).map fun cs ↦
      String.ofList (Text.trimList cs)) == some artifact

def projectText (text : String) (coordinate : Coordinate) : Except RenderFault String :=
  match Element.ofText text.toList with
  | .error _ => .error .outputNotXml
  | .ok root =>
    if root.name = "projects" then
      match projectOf? root coordinate.artifact with
      | some p => .ok (String.ofList (p.source))
      | none => .error (.noProject coordinate)
    else .ok text

def concreteVersion? (d : Dependency) : Option (ArtifactKey × String) :=
  (d.coordinate.version.filter (!hasPlaceholder ·)).map (d.key, ·)

/-- Managed entries come before declared dependencies. -/
def ofDescriptor (d : Descriptor) : Rendered where
  properties := d.properties
  versions := (d.managed ++ d.dependencies).filterMap concreteVersion?

def version? (r : Rendered) (key : ArtifactKey) : Option String := r.versions.lookup key

/-- Reads a single project, or the project of `coordinate` in a wrapper. -/
def ofText (path : Path) (text : String) (coordinate : Coordinate) : Except Failure Rendered :=
  match projectText text coordinate with
  | .error fault => .error (.unavailable path fault)
  | .ok project =>
    match Descriptor.ofText path project with
    | .ok d => .ok (ofDescriptor d)
    | .error fault => .error (.unavailable path (.outputNotDescriptor path fault))

end Rendered

end Reactor
