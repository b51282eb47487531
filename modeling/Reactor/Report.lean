import Reactor.Tree.Json
import Reactor.Tree.Yaml

namespace Reactor

inductive ReportFormat
  | json
  | yaml
  | human
  deriving DecidableEq, Repr

namespace ReportFormat

def all : List (String × ReportFormat) := [("json", json), ("yaml", yaml), ("human", human)]

def ofName? (name : String) : Option ReportFormat := all.lookup name

end ReportFormat

namespace Report

def branch (label value : String) : String := s!"├─ {label}{value}\n"

def rule : String := String.ofList (List.replicate 42 '━') ++ "\n"

def requirementLines : List Requirement → String
  | [] => ""
  | [r] => s!"   └─ {r.text}\n"
  | r :: rest => s!"   ├─ {r.text}\n" ++ requirementLines rest

def projectText (p : Project) : String :=
  let m := p.metadata
  let aggregator := p.aggregator.map fun a ↦ branch "Aggregator:  " a.text
  let version := m.springBootVersion.map fun v ↦ branch "Spring Boot: " v
  let databases := m.databaseNames.map fun (kind, name) ↦
    branch "Database:    " s!"{name} ({Kind.name kind})"
  let flags := if m.flags.isEmpty then ""
    else branch "Metadata:    " (", ".intercalate (m.flags.map Kind.name))
  let pinned := (p.dependencies.filter (·.isVersioned)).length
  let unpinned := (p.dependencies.filter (!·.isVersioned)).length
  "\n" ++ s!"{p.name} ({p.coordinate.text})\n" ++ branch "Path:        " p.path.text
    ++ aggregator.getD "" ++ version.getD "" ++ String.join databases ++ flags
    ++ branch "Dependencies: " s!"{pinned} resolved, {unpinned} unpinned"
    ++ if p.requirements.isEmpty then "└─ Resources:   (none)\n"
      else "└─ Resources:\n" ++ requirementLines p.requirements

def human (ps : List Project) : String :=
  if ps.isEmpty then "No Java projects detected\n"
  else s!"✓ {ps.length} Java project(s) detected\n" ++ rule ++ String.join (ps.map projectText)

def write (format : ReportFormat) (ps : List Project) : String :=
  match format with
  | .json => Tree.Json.write 0 (.ofProjects ps)
  | .yaml => Tree.Yaml.write (.ofProjects ps)
  | .human => human ps

end Report

end Reactor
