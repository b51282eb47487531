import Mathlib.Data.List.Find
import Mathlib.Data.List.Forall2
import Reactor.Proofs.Substitution
import Reactor.Proofs.VersionPrecedence

namespace Reactor

/-- The entries name their artifacts without placeholders, and the imports their versions too. -/
structure Descriptor.NamesLiterally (d : Descriptor) : Prop where
  group : ∀ e ∈ d.dependencies ++ d.managed, hasPlaceholder e.coordinate.group = false
  artifact : ∀ e ∈ d.dependencies ++ d.managed, hasPlaceholder e.coordinate.artifact = false
  importVersion : ∀ e ∈ d.managed, e.isImport = true →
    ∀ version ∈ e.coordinate.version, hasPlaceholder version = false

/-- A text without placeholders stays; one with placeholders may turn into anything. -/
def Kept (before after : String) : Prop := hasPlaceholder before = false → after = before

structure Managed.Kept (before after : Managed) : Prop where
  version : Reactor.Kept before.version after.version
  scope : Option.Rel Reactor.Kept before.scope after.scope

theorem Managed.Kept.refl (m : Managed) : m.Kept m := by
  refine ⟨fun _ ↦ rfl, ?_⟩
  cases m.scope with
  | none => exact .none
  | some scope => exact .some fun _ ↦ rfl

/-- The same artifact, with what was concrete about it kept; only a version can be missing. -/
structure ResolvedDependency.FilledBy (before after : ResolvedDependency) : Prop where
  key : after.key = before.key
  version : before.version ≠ "" → Kept before.version after.version
  scope : Kept before.scope after.scope

section OptionRel

variable {α β : Type} {r : α → α → Prop} {q : β → β → Prop}

theorem rel_map {f g : α → β} (h : ∀ a b, r a b → q (f a) (g b)) {x y : Option α}
    (hxy : Option.Rel r x y) : Option.Rel q (x.map f) (y.map g) := by
  cases hxy with
  | none => exact .none
  | some hab => exact .some (h _ _ hab)

theorem rel_bind {f g : α → Option β} (h : ∀ a b, r a b → Option.Rel q (f a) (g b))
    {x y : Option α} (hxy : Option.Rel r x y) : Option.Rel q (x.bind f) (y.bind g) := by
  cases hxy with
  | none => exact .none
  | some hab => exact h _ _ hab

theorem rel_or {x y x' y' : Option α} (h : Option.Rel r x y) (h' : Option.Rel r x' y') :
    Option.Rel r (x.or x') (y.or y') := by
  cases h with
  | none => exact h'
  | some hab => exact .some hab

end OptionRel

theorem kept_getD {x y : Option String} (h : Option.Rel Kept x y) (missing : String) :
    Kept (x.getD missing) (y.getD missing) := by
  cases h with
  | none => exact fun _ ↦ rfl
  | some hab => exact hab

theorem kept_getD_or {x y : Option String} (h : Option.Rel Kept x y) (hx : x.getD "" ≠ "")
    (last : Option String) : Kept (x.getD "") ((y.or last).getD "") := by
  cases h with
  | none => exact absurd rfl hx
  | some hab => exact hab

section Layers

variable {layers : List Descriptor} {low high : Properties}

theorem Descriptor.NamesLiterally.resolvedKey_eq_key {d : Descriptor} (h : d.NamesLiterally)
    {e : Dependency} (he : e ∈ d.dependencies ++ d.managed) (scope : Properties) :
    e.resolvedKey scope = e.key := by
  rw [Dependency.resolvedKey, Coordinate.resolve, Coordinate.key,
    substitute_of_not_hasPlaceholder (h.group e he),
    substitute_of_not_hasPlaceholder (h.artifact e he)]
  rfl

theorem Descriptor.NamesLiterally.resolve_import {d : Descriptor} (h : d.NamesLiterally)
    {e : Dependency} (he : e ∈ d.managed) (himport : e.isImport = true) (scope : Properties) :
    e.coordinate.resolve scope = e.coordinate := by
  have hmem : e ∈ d.dependencies ++ d.managed := List.mem_append_right _ he
  have hversion : e.coordinate.version.map (substitute · scope) = e.coordinate.version := by
    have hkept : ∀ v, e.coordinate.version = some v → substitute v scope = id v := by
      intro v hv
      exact substitute_of_not_hasPlaceholder (h.importVersion e he himport v hv) scope
    rw [Option.map_congr hkept, Option.map_id_apply]
  rw [Coordinate.resolve, hversion, substitute_of_not_hasPlaceholder (h.group e hmem),
    substitute_of_not_hasPlaceholder (h.artifact e hmem)]

theorem declarations_of_namesLiterally (h : ∀ d ∈ layers, d.NamesLiterally) (scope : Properties) :
    declarations layers scope =
      firstPerKey [] ((layers.flatMap Descriptor.dependencies).map fun e ↦ (e.key, e)) := by
  rw [declarations]
  congr 1
  apply List.map_congr_left
  intro e he
  obtain ⟨d, hd, he⟩ := List.mem_flatMap.mp he
  rw [(h d hd).resolvedKey_eq_key (List.mem_append_left _ he)]

theorem importsOf_of_namesLiterally (h : ∀ d ∈ layers, d.NamesLiterally) (scope : Properties) :
    importsOf layers scope =
      ((layers.flatMap Descriptor.managed).filter Dependency.isImport).map (·.coordinate) := by
  rw [importsOf]
  apply List.map_congr_left
  intro e he
  obtain ⟨he, himport⟩ := List.mem_filter.mp he
  obtain ⟨d, hd, he⟩ := List.mem_flatMap.mp he
  exact (h d hd).resolve_import he himport scope

theorem firstPin?_scopedEntries (h : ∀ d ∈ layers, d.NamesLiterally) (scope : Properties)
    (key : ArtifactKey) :
    firstPin? key (scopedEntries layers scope) =
      ((layers.flatMap Descriptor.managed).find? fun m ↦
        m.isImport = false ∧ m.key = key ∧ m.coordinate.version.isSome = true).bind
          (·.pinned? scope) := by
  have hpins : ∀ m ∈ layers.flatMap Descriptor.managed, decide (m.Pins scope key) =
      decide (m.isImport = false ∧ m.key = key ∧ m.coordinate.version.isSome = true) := by
    intro m hm
    obtain ⟨d, hd, hm⟩ := List.mem_flatMap.mp hm
    have hkey := (h d hd).resolvedKey_eq_key (List.mem_append_right _ hm) scope
    simp only [Dependency.Pins, hkey]
  rw [firstPin?, scopedEntries, List.find?_map, Option.bind_map, ← List.find?_congr hpins]
  rfl

theorem kept_substitute (h : high.Extends low) (text : String) :
    Kept (substitute text low) (substitute text high) :=
  fun hplain ↦ substitute_eq_of_extends h hplain

theorem rel_map_substitute (h : high.Extends low) (text : Option String) :
    Option.Rel Kept (text.map (substitute · low)) (text.map (substitute · high)) := by
  cases text with
  | none => exact .none
  | some t => exact .some (kept_substitute h t)

theorem Dependency.pinned?_rel (h : high.Extends low) (m : Dependency) :
    Option.Rel Managed.Kept (m.pinned? low) (m.pinned? high) := by
  rw [pinned?, pinned?]
  cases m.coordinate.version with
  | none => exact .none
  | some v => exact .some ⟨kept_substitute h v, rel_map_substitute h m.scope⟩

end Layers

namespace Synthesizer

variable {s : Synthesizer} {layers : List Descriptor} {low high : Properties}

theorem pin?_rel (h : ∀ d ∈ layers, d.NamesLiterally) (hext : high.Extends low)
    (key : ArtifactKey) :
    Option.Rel Managed.Kept (s.pin? key layers low) (s.pin? key layers high) := by
  have hown : Option.Rel Managed.Kept (firstPin? key (scopedEntries layers low))
      (firstPin? key (scopedEntries layers high)) := by
    rw [firstPin?_scopedEntries h, firstPin?_scopedEntries h]
    cases (layers.flatMap Descriptor.managed).find? _ with
    | none => exact .none
    | some m => exact m.pinned?_rel hext
  have himports : s.importPin? key layers high = s.importPin? key layers low := by
    rw [importPin?, importPin?, importsOf_of_namesLiterally h, importsOf_of_namesLiterally h]
  rw [pin?, pin?, himports]
  refine rel_or hown ?_
  cases s.importPin? key layers low with
  | none => exact .none
  | some m => exact .some (.refl m)

end Synthesizer

theorem filledBy_of_rel {low high : Properties} (hext : high.Extends low) (key : ArtifactKey)
    (d : Dependency) {pin pin' : Option Managed} (hpin : Option.Rel Managed.Kept pin pin')
    (last : Option String) :
    (resolvedDependency key d low (pin.or (none.map (⟨·, none⟩)))).FilledBy
      (resolvedDependency key d high (pin'.or (last.map (⟨·, none⟩)))) := by
  have hversion := rel_or (rel_map_substitute hext d.coordinate.version)
    (rel_map (fun _ _ hm ↦ hm.version) hpin)
  have hscope := rel_or (rel_map_substitute hext d.scope) (rel_bind (fun _ _ hm ↦ hm.scope) hpin)
  refine ⟨rfl, ?_, ?_⟩
  · rw [resolvedDependency_version, resolvedDependency_version, Option.or_none]
    intro hne
    exact kept_getD_or hversion hne last
  · rw [resolvedDependency_scope, resolvedDependency_scope]
    exact kept_getD hscope defaultScope

namespace Synthesizer

variable {s : Synthesizer}

/-- A rendered descriptor leaves the artifacts of a view and their order as they are, and changes a
version or a scope only where it is missing or has placeholders. -/
theorem synthesize_filledBy {cache cache' : ImportCache} (hcache : cache.Reachable s)
    (hcache' : cache'.Reachable s) (leaf : Descriptor) (chainRootFirst : List Descriptor)
    (hlayers : ∀ d ∈ s.layersOf leaf chainRootFirst, d.NamesLiterally) (rendered : Rendered) :
    List.Forall₂ ResolvedDependency.FilledBy
      (s.synthesize leaf chainRootFirst none cache).1.dependencies
      (s.synthesize leaf chainRootFirst (some rendered) cache').1.dependencies := by
  have hext : (s.scopeOf leaf chainRootFirst (some rendered)).Extends
      (s.scopeOf leaf chainRootFirst none) :=
    Descriptor.scope_extends (Properties.extends_empty _) leaf _
  rw [synthesize_dependencies hcache, synthesize_dependencies hcache', resolvedIn, resolvedIn,
    declarations_of_namesLiterally hlayers, declarations_of_namesLiterally hlayers,
    List.forall₂_map_left_iff, List.forall₂_map_right_iff, List.forall₂_same]
  intro p hp
  exact filledBy_of_rel hext p.1 p.2 (pin?_rel hlayers hext p.1) _

def gappyLeaf : Descriptor :=
  { Descriptor.bare "leaf" with
    dependencies := [⟨⟨"g", "known", some "$\x7bknown.version\x7d"⟩, none, none⟩,
      ⟨⟨"g", "unknown", some "$\x7bunknown.version\x7d"⟩, none, none⟩,
      ⟨⟨"g", "missing", none⟩, some "test", none⟩]
    properties := Std.TreeMap.insert ∅ "known.version" "1" }

def gapRendered : Rendered where
  properties := (Std.TreeMap.insert ∅ "known.version" "2").insert "unknown.version" "3"
  versions := [(⟨"g", "known"⟩, "4"), (⟨"g", "missing"⟩, "5")]

theorem gappyLeaf_filled :
    (∀ d ∈ sourceless.layersOf gappyLeaf [], d.NamesLiterally) ∧
      (sourceless.synthesize gappyLeaf [] none .empty).1.dependencies =
        [⟨"g", "known", "1", "compile"⟩,
          ⟨"g", "unknown", "$\x7bunknown.version\x7d", "compile"⟩,
          ⟨"g", "missing", "", "test"⟩] ∧
      (sourceless.synthesize gappyLeaf [] (some gapRendered) .empty).1.dependencies =
        [⟨"g", "known", "1", "compile"⟩, ⟨"g", "unknown", "3", "compile"⟩,
          ⟨"g", "missing", "5", "test"⟩] ∧
      List.Forall₂ ResolvedDependency.FilledBy
        (sourceless.synthesize gappyLeaf [] none .empty).1.dependencies
        (sourceless.synthesize gappyLeaf [] (some gapRendered) .empty).1.dependencies := by
  have hlayers : ∀ d ∈ sourceless.layersOf gappyLeaf [], d.NamesLiterally := by
    intro d hd
    have hleaf : sourceless.layersOf gappyLeaf [] = [gappyLeaf] := rfl
    obtain rfl := List.mem_singleton.mp (hleaf ▸ hd)
    exact ⟨by decide +kernel, by decide +kernel, by decide +kernel⟩
  refine ⟨hlayers, by decide +kernel, by decide +kernel, ?_⟩
  exact synthesize_filledBy .empty .empty gappyLeaf [] hlayers gapRendered

end Synthesizer

end Reactor
