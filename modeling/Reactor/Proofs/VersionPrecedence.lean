import Reactor.Proofs.ImportTour

namespace Reactor

theorem firstPerKey_find? {seen : List ArtifactKey} {xs : List (ArtifactKey × Dependency)}
    {p : ArtifactKey × Dependency} (h : p ∈ firstPerKey seen xs) :
    p.1 ∉ seen ∧ xs.find? (·.1 == p.1) = some p := by
  induction xs generalizing seen with
  | nil => cases h
  | cons x rest ih =>
    obtain ⟨key, d⟩ := x
    rw [firstPerKey] at h
    by_cases hk : key ∈ seen
    · rw [if_pos hk] at h
      obtain ⟨hp, hfind⟩ := ih h
      have hne : (key == p.1) = false := beq_false_of_ne fun he ↦ hp (he ▸ hk)
      exact ⟨hp, by rw [List.find?_cons, hne, hfind]⟩
    · rw [if_neg hk] at h
      rcases List.mem_cons.mp h with rfl | h
      · exact ⟨hk, by simp⟩
      · obtain ⟨hp, hfind⟩ := ih h
        rw [List.mem_cons, not_or] at hp
        have hne : (key == p.1) = false := beq_false_of_ne (Ne.symm hp.1)
        exact ⟨hp.2, by rw [List.find?_cons, hne, hfind]⟩

theorem declarations_find? {layers : List Descriptor} {scope : Properties} {key : ArtifactKey}
    {d : Dependency} (h : (key, d) ∈ declarations layers scope) :
    (layers.flatMap Descriptor.dependencies).find? (·.resolvedKey scope == key) = some d := by
  have hfind := (firstPerKey_find? h).2
  rw [List.find?_map] at hfind
  obtain ⟨e, he, hp⟩ := Option.map_eq_some_iff.mp hfind
  obtain rfl : e = d := congrArg Prod.snd hp
  exact he

section ResolvedDependency

variable (key : ArtifactKey) (d : Dependency) (scope : Properties) (pin : Option Managed)
  (version : Option String)

theorem resolvedDependency_version :
    (resolvedDependency key d scope (pin.or (version.map (⟨·, none⟩)))).version =
      (((d.coordinate.version.map (substitute · scope)).or (pin.map Managed.version)).or
        version).getD "" := by
  cases hd : d.coordinate.version <;> cases pin <;> cases version <;>
    simp [resolvedDependency, hd]

/-- A version without a managed entry says nothing about the scope. -/
theorem resolvedDependency_scope :
    (resolvedDependency key d scope (pin.or (version.map (⟨·, none⟩)))).scope =
      ((d.scope.map (substitute · scope)).or (pin.bind Managed.scope)).getD defaultScope := by
  cases pin <;> cases version <;> rfl

end ResolvedDependency

namespace Synthesizer

variable {s : Synthesizer}

def pin? (s : Synthesizer) (key : ArtifactKey) (layers : List Descriptor) (scope : Properties) :
    Option Managed :=
  (firstPin? key (scopedEntries layers scope)).or (s.importPin? key layers scope)

theorem managedFor_run {cache : ImportCache} (h : cache.Reachable s) (key : ArtifactKey)
    (layers : List Descriptor) (scope : Properties) (rendered : Option Rendered) :
    (s.managedFor key layers scope rendered cache).1 =
        (s.pin? key layers scope).or ((rendered.bind (·.version? key)).map (⟨·, none⟩)) ∧
      (s.managedFor key layers scope rendered cache).2.Reachable s := by
  refine ⟨?_, .search ⟨[], cache⟩ key s.maxImportDepth layers scope h⟩
  rw [pin?, ← managedIn?_eq_firstPin?, ← lookupManaged_eq h]
  rfl

def resolvedIn (s : Synthesizer) (layers : List Descriptor) (scope : Properties)
    (rendered : Option Rendered) : List ResolvedDependency :=
  (declarations layers scope).map fun p ↦ resolvedDependency p.1 p.2 scope
    ((s.pin? p.1 layers scope).or ((rendered.bind (·.version? p.1)).map (⟨·, none⟩)))

theorem build_dependencies {cache : ImportCache} (h : cache.Reachable s) (leaf : Descriptor)
    (ancestorsRootFirst : List Descriptor) (rendered : Option Rendered) :
    (s.build leaf ancestorsRootFirst rendered cache).1.dependencies =
      s.resolvedIn (leaf :: ancestorsRootFirst.reverse)
        (leaf.scope ancestorsRootFirst (rendered.map Rendered.properties)) rendered := by
  refine (mapM_run (P := ImportCache.Reachable s) (fun p cache h ↦ ?_) _ h).1
  obtain ⟨hm, hr⟩ := managedFor_run h p.1 (leaf :: ancestorsRootFirst.reverse)
    (leaf.scope ancestorsRootFirst (rendered.map Rendered.properties)) rendered
  rw [← hm]
  exact ⟨rfl, hr⟩

theorem mem_resolvedIn {layers : List Descriptor} {scope : Properties}
    {rendered : Option Rendered} {d : ResolvedDependency}
    (h : d ∈ s.resolvedIn layers scope rendered) :
    ∃ declared, (d.key, declared) ∈ declarations layers scope ∧
      d.version = (((declared.coordinate.version.map (substitute · scope)).or
        ((s.pin? d.key layers scope).map Managed.version)).or
        (rendered.bind (·.version? d.key))).getD "" ∧
      d.scope = ((declared.scope.map (substitute · scope)).or
        ((s.pin? d.key layers scope).bind Managed.scope)).getD defaultScope := by
  obtain ⟨⟨key, declared⟩, hdeclared, rfl⟩ := List.mem_map.mp h
  exact ⟨declared, hdeclared, resolvedDependency_version .., resolvedDependency_scope ..⟩

/-- A leaf and its ancestors, nearest first; those of its chain come before those that only the
sources supply. -/
def layersOf (s : Synthesizer) (leaf : Descriptor) (chainRootFirst : List Descriptor) :
    List Descriptor :=
  leaf :: (chainRootFirst.reverse ++ s.externalParents leaf chainRootFirst)

def scopeOf (s : Synthesizer) (leaf : Descriptor) (chainRootFirst : List Descriptor)
    (rendered : Option Rendered) : Properties :=
  leaf.scope (s.layersOf leaf chainRootFirst).tail.reverse (rendered.map Rendered.properties)

theorem synthesize_dependencies {cache : ImportCache} (h : cache.Reachable s) (leaf : Descriptor)
    (chainRootFirst : List Descriptor) (rendered : Option Rendered) :
    (s.synthesize leaf chainRootFirst rendered cache).1.dependencies =
      s.resolvedIn (s.layersOf leaf chainRootFirst) (s.scopeOf leaf chainRootFirst rendered)
        rendered := by
  rw [synthesize, build_dependencies (.parents _ _ h), List.reverse_append, List.reverse_reverse]
  simp only [layersOf, scopeOf, List.tail_cons, List.reverse_append, List.reverse_reverse]

/-- The first declaration of a key decides about version and scope; where it is silent the managed
entry of the key decides, and about the version at last the rendered descriptor. -/
theorem synthesize_precedence {cache : ImportCache} (hcache : cache.Reachable s)
    (leaf : Descriptor) (chainRootFirst : List Descriptor) (rendered : Option Rendered)
    (d : ResolvedDependency)
    (hd : d ∈ (s.synthesize leaf chainRootFirst rendered cache).1.dependencies) :
    let layers := s.layersOf leaf chainRootFirst
    let scope := s.scopeOf leaf chainRootFirst rendered
    ∃ declared,
      (layers.flatMap Descriptor.dependencies).find? (·.resolvedKey scope == d.key) =
        some declared ∧
      d.version = (((declared.coordinate.version.map (substitute · scope)).or
        ((s.pin? d.key layers scope).map Managed.version)).or
        (rendered.bind (·.version? d.key))).getD "" ∧
      d.scope = ((declared.scope.map (substitute · scope)).or
        ((s.pin? d.key layers scope).bind Managed.scope)).getD "compile" := by
  intro layers scope
  rw [synthesize_dependencies hcache] at hd
  obtain ⟨declared, hdeclared, hversion, hscope⟩ := mem_resolvedIn hd
  exact ⟨declared, declarations_find? hdeclared, hversion, hscope⟩

def sourceless : Synthesizer := ⟨[], 1⟩

def declaringLeaf : Descriptor :=
  { Descriptor.managing "leaf" [] with dependencies := [⟨⟨"g", "lib", some "3"⟩, none, none⟩] }

def scopingRoot : Descriptor := .managing "root" [⟨.bare "lib", some "test", none⟩]

/-- The version is the declared one, and the scope that of an entry which pins another version. -/
theorem synthesize_declaringLeaf :
    let layers := sourceless.layersOf declaringLeaf [scopingRoot]
    let scope := sourceless.scopeOf declaringLeaf [scopingRoot] none
    ImportCache.empty.Reachable sourceless ∧
      (sourceless.synthesize declaringLeaf [scopingRoot] none .empty).1.dependencies =
        [⟨"g", "lib", "3", "test"⟩] ∧
      ∃ declared,
        (layers.flatMap Descriptor.dependencies).find? (·.resolvedKey scope == ⟨"g", "lib"⟩) =
          some declared ∧
        "3" = (((declared.coordinate.version.map (substitute · scope)).or
          ((sourceless.pin? ⟨"g", "lib"⟩ layers scope).map Managed.version)).or none).getD "" ∧
        "test" = ((declared.scope.map (substitute · scope)).or
          ((sourceless.pin? ⟨"g", "lib"⟩ layers scope).bind Managed.scope)).getD "compile" := by
  have hview : (sourceless.synthesize declaringLeaf [scopingRoot] none .empty).1.dependencies =
      [⟨"g", "lib", "3", "test"⟩] := by decide +kernel
  refine ⟨.empty, hview, ?_⟩
  refine synthesize_precedence .empty declaringLeaf [scopingRoot] none ⟨"g", "lib", "3", "test"⟩ ?_
  rw [hview]
  exact List.mem_singleton_self _

end Synthesizer

end Reactor
