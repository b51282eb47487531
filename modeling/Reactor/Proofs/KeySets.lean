import Mathlib.Data.List.Nodup
import Reactor.Inference
import Reactor.Proofs.AscendingSets
import Reactor.Proofs.Coordinate

namespace Reactor

/-- The same elements, whatever their order and number. -/
def SameMembers {α : Type} (xs ys : List α) : Prop := xs ⊆ ys ∧ ys ⊆ xs

section Matched

variable {dependencies other : List ResolvedDependency}

theorem ResourceRule.matched?_isSome_iff {rule : ResourceRule} :
    (rule.matched? dependencies).isSome = true ↔
      ∃ key ∈ rule.alternatives, key ∈ dependencies.map ResolvedDependency.key := by
  simp only [matched?, List.findSome?_isSome_iff, List.find?_isSome, beq_iff_eq, List.mem_map]

theorem find?_key_eq_some_iff (h : (dependencies.map ResolvedDependency.key).Nodup)
    {key : ArtifactKey} {d : ResolvedDependency} :
    dependencies.find? (·.key == key) = some d ↔ d ∈ dependencies ∧ d.key = key := by
  constructor
  · intro hfind
    exact ⟨List.mem_of_find?_eq_some hfind, by simpa using List.find?_some hfind⟩
  · rintro ⟨hd, rfl⟩
    have hsome : (dependencies.find? (·.key == d.key)).isSome = true :=
      List.find?_isSome.mpr ⟨d, hd, beq_self_eq_true d.key⟩
    obtain ⟨e, he⟩ := Option.isSome_iff_exists.mp hsome
    have hkey : e.key = d.key := by simpa using List.find?_some he
    rw [he, List.inj_on_of_nodup_map h (List.mem_of_find?_eq_some he) hd hkey]

theorem ResourceRule.matched?_of_perm (rule : ResourceRule)
    (h : (dependencies.map ResolvedDependency.key).Nodup) (hperm : dependencies.Perm other) :
    rule.matched? other = rule.matched? dependencies := by
  have hother : (other.map ResolvedDependency.key).Nodup :=
    (hperm.map ResolvedDependency.key).nodup_iff.mp h
  have hfind : ∀ key, other.find? (·.key == key) = dependencies.find? (·.key == key) := by
    intro key
    apply Option.ext
    intro d
    rw [find?_key_eq_some_iff hother, find?_key_eq_some_iff h, hperm.mem_iff]
  rw [matched?, matched?, funext hfind]

end Matched

/-- The keys among which a rule for facts looks for its alternatives. -/
def MatchTarget.keys (target : MatchTarget) (dependencies : List ResolvedDependency)
    (plugins : List Coordinate) : List ArtifactKey :=
  match target with
  | dependency => dependencies.map ResolvedDependency.key
  | buildPlugin => plugins.map Coordinate.key

namespace RuleTable

section Members

variable {table : RuleTable} {dependencies : List ResolvedDependency} {plugins : List Coordinate}
  {overlay : Properties}

theorem mem_classify {requirement : Requirement} :
    requirement ∈ table.classify dependencies overlay ↔
      ∃ rule ∈ table.resources,
        (∃ key ∈ rule.alternatives, key ∈ dependencies.map ResolvedDependency.key) ∧
          requirement ∈ rule.template.requirements overlay := by
  simp only [classify, Ascending.mem_ofList, List.mem_flatMap, findings, List.mem_filterMap,
    Option.map_eq_some_iff, ← ResourceRule.matched?_isSome_iff, Option.isSome_iff_exists]
  constructor
  · rintro ⟨_, ⟨rule, hrule, d, hd, rfl⟩, hrequirement⟩
    exact ⟨rule, hrule, ⟨d, hd⟩, hrequirement⟩
  · rintro ⟨rule, hrule, ⟨d, hd⟩, hrequirement⟩
    exact ⟨_, ⟨rule, hrule, d, hd, rfl⟩, hrequirement⟩

theorem mem_flags {flag : MetadataFlag} :
    flag ∈ table.flags dependencies plugins ↔
      ∃ rule ∈ table.metadata, rule.flag = flag ∧
        ∃ key ∈ rule.alternatives, key ∈ rule.target.keys dependencies plugins := by
  simp only [flags, Ascending.mem_ofList, List.mem_filterMap, Option.ite_none_right_eq_some,
    List.any_eq_true, List.contains_iff_mem, Option.some.injEq]
  constructor
  · rintro ⟨rule, hrule, hkey, hflag⟩
    exact ⟨rule, hrule, hflag, hkey⟩
  · rintro ⟨rule, hrule, hflag, hkey⟩
    exact ⟨rule, hrule, hkey, hflag⟩

end Members

section Growth

variable {table other : RuleTable} {dependencies more : List ResolvedDependency}
  {plugins morePlugins : List Coordinate}

theorem classify_subset (hrules : table.resources ⊆ other.resources)
    (hkeys : dependencies.map ResolvedDependency.key ⊆ more.map ResolvedDependency.key)
    (overlay : Properties) :
    table.classify dependencies overlay ⊆ other.classify more overlay := by
  intro requirement h
  obtain ⟨rule, hrule, ⟨key, halternative, hkey⟩, hrequirement⟩ := mem_classify.mp h
  exact mem_classify.mpr ⟨rule, hrules hrule, ⟨key, halternative, hkeys hkey⟩, hrequirement⟩

theorem flags_subset (hrules : table.metadata ⊆ other.metadata)
    (hkeys : dependencies.map ResolvedDependency.key ⊆ more.map ResolvedDependency.key)
    (hplugins : plugins.map Coordinate.key ⊆ morePlugins.map Coordinate.key) :
    table.flags dependencies plugins ⊆ other.flags more morePlugins := by
  intro flag h
  obtain ⟨rule, hrule, hflag, key, halternative, hkey⟩ := mem_flags.mp h
  refine mem_flags.mpr ⟨rule, hrules hrule, hflag, key, halternative, ?_⟩
  cases htarget : rule.target with
  | dependency =>
    rw [htarget] at hkey
    exact hkeys hkey
  | buildPlugin =>
    rw [htarget] at hkey
    exact hplugins hkey

theorem classify_congr (hrules : SameMembers table.resources other.resources)
    (hkeys : SameMembers (dependencies.map ResolvedDependency.key)
      (more.map ResolvedDependency.key)) (overlay : Properties) :
    other.classify more overlay = table.classify dependencies overlay :=
  (Ascending.isAscending_ofList _).eq_of_subset (Ascending.isAscending_ofList _)
    (classify_subset hrules.2 hkeys.2 overlay) (classify_subset hrules.1 hkeys.1 overlay)

theorem flags_congr (hrules : SameMembers table.metadata other.metadata)
    (hkeys : SameMembers (dependencies.map ResolvedDependency.key)
      (more.map ResolvedDependency.key))
    (hplugins : SameMembers (plugins.map Coordinate.key) (morePlugins.map Coordinate.key)) :
    other.flags more morePlugins = table.flags dependencies plugins :=
  (Ascending.isAscending_ofList _).eq_of_subset (Ascending.isAscending_ofList _)
    (flags_subset hrules.2 hkeys.2 hplugins.2) (flags_subset hrules.1 hkeys.1 hplugins.1)

end Growth

def inferred (table : RuleTable) (leaf : Descriptor) (owner : Option Descriptor)
    (view : EffectiveView) (overlay : Properties) (dependencies : List ResolvedDependency)
    (plugins : List Coordinate) : List Requirement :=
  (infer table leaf owner { view with dependencies } plugins overlay).requirements

/-- Keys decide about requirements and flags: a rule applies when one of its alternatives is a key
of its target. So only the sets of rules and keys matter, more keys find no less, and an inference
lists each requirement once, in ascending order. -/
theorem classification_of_keys (table : RuleTable) (dependencies : List ResolvedDependency)
    (plugins : List Coordinate) (overlay : Properties) (leaf : Descriptor)
    (owner : Option Descriptor) (view : EffectiveView) :
    (∀ requirement, requirement ∈ table.classify dependencies overlay ↔
      ∃ rule ∈ table.resources,
        (∃ key ∈ rule.alternatives, key ∈ dependencies.map ResolvedDependency.key) ∧
          requirement ∈ rule.template.requirements overlay) ∧
    (∀ flag, flag ∈ table.flags dependencies plugins ↔
      ∃ rule ∈ table.metadata, rule.flag = flag ∧
        ∃ key ∈ rule.alternatives, key ∈ rule.target.keys dependencies plugins) ∧
    (∀ (other : RuleTable) dependencies' plugins',
      SameMembers table.resources other.resources → SameMembers table.metadata other.metadata →
      SameMembers (dependencies.map ResolvedDependency.key)
        (dependencies'.map ResolvedDependency.key) →
      SameMembers (plugins.map Coordinate.key) (plugins'.map Coordinate.key) →
        other.classify dependencies' overlay = table.classify dependencies overlay ∧
        other.flags dependencies' plugins' = table.flags dependencies plugins ∧
        other.inferred leaf owner view overlay dependencies' plugins' =
          table.inferred leaf owner view overlay dependencies plugins) ∧
    (∀ dependencies' plugins',
      dependencies.map ResolvedDependency.key ⊆ dependencies'.map ResolvedDependency.key →
      plugins.map Coordinate.key ⊆ plugins'.map Coordinate.key →
        table.classify dependencies overlay ⊆ table.classify dependencies' overlay ∧
        table.flags dependencies plugins ⊆ table.flags dependencies' plugins' ∧
        table.inferred leaf owner view overlay dependencies plugins ⊆
          table.inferred leaf owner view overlay dependencies' plugins') ∧
    Ascending.IsAscending Requirement.order
      (table.inferred leaf owner view overlay dependencies plugins) ∧
    (table.inferred leaf owner view overlay dependencies plugins).Nodup ∧
    ((dependencies.map ResolvedDependency.key).Nodup →
      ∀ (rule : ResourceRule) dependencies', dependencies.Perm dependencies' →
        rule.matched? dependencies' = rule.matched? dependencies) := by
  have hascending : Ascending.IsAscending Requirement.order
      (table.inferred leaf owner view overlay dependencies plugins) :=
    Ascending.isAscending_ofList _
  refine ⟨fun _ ↦ mem_classify, fun _ ↦ mem_flags, ?_, ?_, hascending, hascending.nodup, ?_⟩
  · intro other dependencies' plugins' hresources hmetadata hkeys hplugins
    have hclassify := classify_congr hresources hkeys overlay
    exact ⟨hclassify, flags_congr hmetadata hkeys hplugins, hclassify⟩
  · intro dependencies' plugins' hkeys hplugins
    have hclassify := classify_subset (List.Subset.refl table.resources) hkeys overlay
    exact ⟨hclassify, flags_subset (List.Subset.refl _) hkeys hplugins, hclassify⟩
  · intro hnodup rule dependencies' hperm
    exact rule.matched?_of_perm hnodup hperm

def storeTable : RuleTable where
  resources := [⟨"store", [⟨"g", "plain"⟩, ⟨"g", "reactive"⟩], .database .redis⟩,
    ⟨"table", [⟨"g", "table"⟩], .database .postgres⟩]
  metadata := [⟨[⟨"g", "front"⟩], .buildPlugin, .springFrontend⟩]

def storeDependencies : List ResolvedDependency :=
  [⟨"g", "reactive", "1", "compile"⟩, ⟨"g", "plain", "2", "test"⟩, ⟨"g", "table", "3", "compile"⟩]

def shuffledDependencies : List ResolvedDependency :=
  [⟨"g", "table", "", "compile"⟩, ⟨"g", "plain", "4", "compile"⟩, ⟨"g", "table", "5", "test"⟩,
    ⟨"g", "reactive", "1", "compile"⟩]

theorem shuffled_classified_alike :
    storeTable.classify storeDependencies ∅ = [.database .postgres, .database .redis] ∧
      SameMembers (storeDependencies.map ResolvedDependency.key)
        (shuffledDependencies.map ResolvedDependency.key) ∧
      (storeDependencies.map ResolvedDependency.key).Nodup ∧
      storeTable.classify shuffledDependencies ∅ = storeTable.classify storeDependencies ∅ ∧
      (⟨"store", [⟨"g", "plain"⟩, ⟨"g", "reactive"⟩], .database .redis⟩ : ResourceRule).matched?
          storeDependencies.reverse = some ⟨"g", "plain", "2", "test"⟩ := by
  have hkeys : SameMembers (storeDependencies.map ResolvedDependency.key)
      (shuffledDependencies.map ResolvedDependency.key) := ⟨by decide, by decide⟩
  have hnodup : (storeDependencies.map ResolvedDependency.key).Nodup := by decide
  obtain ⟨-, -, hsame, -, -, -, hmatched⟩ := classification_of_keys storeTable storeDependencies
    [] ∅ (.bare "leaf") none ⟨.bare "leaf", [], ∅⟩
  refine ⟨by decide +kernel, hkeys, hnodup, ?_, ?_⟩
  · exact (hsame storeTable shuffledDependencies [] ⟨by simp, by simp⟩ ⟨by simp, by simp⟩ hkeys
      ⟨by simp, by simp⟩).1
  · rw [hmatched hnodup _ _ storeDependencies.reverse_perm.symm]
    decide

end RuleTable

end Reactor
