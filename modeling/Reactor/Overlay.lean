import Reactor.Files
import Reactor.Log
import Reactor.Placeholder
import Reactor.Yaml.Value

namespace Reactor

abbrev Overlay := Properties

abbrev Definition := String × String

namespace Overlay

def define (overlay : Overlay) (definitions : List Definition) : Overlay :=
  definitions.foldl (fun o d ↦ o.insert d.1 d.2) overlay

/-- What a line `key = value` defines; blank lines and those that begin with `#` define nothing. -/
def lineDefinition? (line : List Char) : Option Definition :=
  let line := Text.trimList line
  if line.head? == some '#' then none
  else (Text.cutFirst? '=' line).map fun (key, value) ↦
    (String.ofList (Text.trimList key), String.ofList (Text.trimList value))

def propertyDefinitions (text : String) : List Definition :=
  (Text.lines text.toList).filterMap lineDefinition?

end Overlay

namespace Yaml.Value

def scalarText? : Value → Option String
  | null => some ""
  | bool b => some (if b then "true" else "false")
  | number n => some n.text
  | text s => some s
  | sequence _ | mapping _ | tagged .. => none

def keyPath (above key : String) : String := if above.isEmpty then key else s!"{above}.{key}"

def itemPath (above : String) (index : Nat) : String := s!"{above}[{index}]"

mutual

/-- The scalars of a value with their paths below `above`; one without a path defines nothing. -/
def leaves (above : String) : Value → List Definition
  | mapping entries => entryLeaves above entries
  | sequence items => itemLeaves above 0 items
  | tagged _ v => leaves above v
  | v => if above.isEmpty then [] else ((scalarText? v).map (above, ·)).toList

def itemLeaves (above : String) (index : Nat) : List Value → List Definition
  | [] => []
  | v :: rest => leaves (itemPath above index) v ++ itemLeaves above (index + 1) rest

/-- Keys that are no scalars are skipped with all that is below them. -/
def entryLeaves (above : String) : List (Value × Value) → List Definition
  | [] => []
  | (k, v) :: rest =>
    (match scalarText? k with
      | some key => leaves (keyPath above key) v
      | none => []) ++ entryLeaves above rest

end

end Yaml.Value

namespace Overlay

/-- The definitions of all documents of a stream; there are none unless all can be read. -/
def yamlDefinitions (text : String) : Except Yaml.Malformed (List Definition) :=
  (Yaml.Value.readAll text).map fun values ↦ values.flatMap (Yaml.Value.leaves "")

inductive Format
  | properties
  | yaml
  deriving DecidableEq, Repr

inductive Fault
  | unreadable (path : Path) (fault : ReadFault)
  | malformed (path : Path)
  deriving DecidableEq, Repr

def Fault.event : Fault → Event
  | unreadable path fault =>
    .warn s!"Skipping unreadable configuration file {path.text}: {fault.message}"
  | malformed path => .warn s!"Skipping malformed configuration file {path.text}"

def textDefinitions (format : Format) (text : String) : Except Yaml.Malformed (List Definition) :=
  match format with
  | .properties => .ok (propertyDefinitions text)
  | .yaml => yamlDefinitions text

def fileDefinitions (files : FileView) (path : Path) (format : Format) :
    Except Fault (List Definition) :=
  if !files.isFile path then .ok []
  else match files.read path with
    | .error fault => .error (.unreadable path fault)
    | .ok text => (textDefinitions format text).mapError fun _ ↦ .malformed path

def extensions : List (String × Format) :=
  [("properties", .properties), ("yml", .yaml), ("yaml", .yaml)]

def resourcesDirectory : String := "src/main/resources"

def stemDefinitions (files : FileView) (directory : Path) (stem : String) :
    List (Except Fault (List Definition)) :=
  extensions.map fun (extension, format) ↦
    fileDefinitions files
      ((directory.join ⟨resourcesDirectory⟩).join ⟨s!"{stem}.{extension}"⟩) format

def activeProfilesKey : String := "spring.profiles.active"

def activeProfiles (overlay : Overlay) : List String :=
  match overlay[activeProfilesKey]? with
  | none => []
  | some names => (Text.cut ',' names.toList).filterMap fun cs ↦ Text.trimmed? (String.ofList cs)

def defineAll (overlay : Overlay) (results : List (Except Fault (List Definition))) : Overlay :=
  overlay.define (results.flatMap fun r ↦ (r.toOption).getD [])

def faults (results : List (Except Fault (List Definition))) : List Fault :=
  results.filterMap fun
    | .error fault => some fault
    | .ok _ => none

/-- The configuration of the project in a directory, and the files that could not be used. Which
profiles are active is settled by the base files alone. -/
def load (files : FileView) (directory : Path) : Overlay × List Fault :=
  let base := stemDefinitions files directory "application"
  let settled := defineAll ∅ base
  let profiles := (activeProfiles settled).flatMap fun p ↦
    stemDefinitions files directory s!"application-{p}"
  (defineAll settled profiles, faults (base ++ profiles))

end Overlay

end Reactor
