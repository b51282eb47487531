import Reactor.Binding
import Reactor.Log
import Reactor.Rule

namespace Reactor

structure Finding where
  rule : ResourceRule
  dependency : ResolvedDependency
  bindings : List (String × String)
  requirements : List Requirement

namespace BindingSource

variable (source : BindingSource) (overlay : Properties)

def bindings : Bindings := Bindings.ofOverlay overlay source.space

/-- The store that an input channel needs to keep its position in. -/
def checkpoint? : Option Requirement :=
  source.checkpointKey.bind fun key ↦
    (source.bindings overlay).input?.map fun _ ↦
      .objectStorage (overlay[key]?.filter (!·.isEmpty)).toList

end BindingSource

namespace RequirementTemplate

variable (template : RequirementTemplate)

def bindingSource? : RequirementTemplate → Option BindingSource
  | database _ => none
  | messageQueue _ bindings => bindings
  | eventStream _ _ bindings => some bindings

def bindings (overlay : Properties) : Bindings :=
  (template.bindingSource?.map (·.bindings overlay)).getD ∅

def principal (overlay : Properties) : Requirement :=
  match template with
  | database kind => .database kind
  | messageQueue kind _ => .messageQueue kind (template.bindings overlay).destinations
  | eventStream kind usesAlternateProtocol _ =>
    .eventStream kind (template.bindings overlay).destinations usesAlternateProtocol

def requirements (overlay : Properties) : List Requirement :=
  template.principal overlay :: (template.bindingSource?.bind (·.checkpoint? overlay)).toList

def kindName : RequirementTemplate → String
  | database kind => Kind.name kind
  | messageQueue kind _ => Kind.name kind
  | eventStream kind _ _ => Kind.name kind

end RequirementTemplate

def Finding.events (f : Finding) : List Event :=
  f.bindings.map
      (fun b ↦ .info s!"  Detected {f.rule.template.kindName} [{b.2}] for binding [{b.1}]")
    ++ f.requirements.map fun r ↦
      .info <| s!"Detected '{r.text}' because found dependency "
        ++ s!"'{f.dependency.key.text}' (rule {f.rule.name})"

namespace RuleTable

variable (table : RuleTable)

def findings (dependencies : List ResolvedDependency) (overlay : Properties) : List Finding :=
  table.resources.filterMap fun rule ↦
    (rule.matched? dependencies).map fun dependency ↦
      { rule, dependency
        bindings := (rule.template.bindings overlay).toList
        requirements := rule.template.requirements overlay }

def classify (dependencies : List ResolvedDependency) (overlay : Properties) : List Requirement :=
  Ascending.ofList Requirement.order
    ((table.findings dependencies overlay).flatMap Finding.requirements)

def flags (dependencies : List ResolvedDependency) (plugins : List Coordinate) :
    List MetadataFlag :=
  let dependencyKeys := dependencies.map ResolvedDependency.key
  let pluginKeys := plugins.map Coordinate.key
  Ascending.ofList compare <| table.metadata.filterMap fun rule ↦
    let keys := match rule.target with
      | .dependency => dependencyKeys
      | .buildPlugin => pluginKeys
    if rule.alternatives.any (keys.contains ·) then some rule.flag else none

end RuleTable

end Reactor
