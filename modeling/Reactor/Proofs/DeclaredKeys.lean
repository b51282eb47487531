import Mathlib.Data.List.Nodup
import Reactor.Proofs.VersionPrecedence

namespace Reactor

def declaredKeys (layers : List Descriptor) (scope : Properties) : List ArtifactKey :=
  (layers.flatMap Descriptor.dependencies).map (·.resolvedKey scope)

theorem mem_declaredKeys {layers : List Descriptor} {scope : Properties} {key : ArtifactKey} :
    key ∈ declaredKeys layers scope ↔
      ∃ layer ∈ layers, ∃ d ∈ layer.dependencies, d.resolvedKey scope = key := by
  simp only [declaredKeys, List.mem_map, List.mem_flatMap]
  constructor
  · rintro ⟨d, ⟨layer, hlayer, hd⟩, hkey⟩
    exact ⟨layer, hlayer, d, hd, hkey⟩
  · rintro ⟨layer, hlayer, d, hd, hkey⟩
    exact ⟨d, ⟨layer, hlayer, hd⟩, hkey⟩

section FirstPerKey

theorem firstPerKey_keys (seen : List ArtifactKey) (xs : List (ArtifactKey × Dependency)) :
    (firstPerKey seen xs).map Prod.fst =
      ((xs.map Prod.fst).filter fun key ↦ decide (key ∉ seen)).eraseDups := by
  induction xs generalizing seen with
  | nil => rfl
  | cons x xs ih =>
    obtain ⟨key, d⟩ := x
    rw [firstPerKey, List.map_cons]
    by_cases hk : key ∈ seen
    · rw [if_pos hk, ih, List.filter_cons_of_neg (by simpa using hk)]
    · have hboth : ∀ other, decide (other ∉ key :: seen) =
          (!other == key && decide (other ∉ seen)) := by
        intro other
        by_cases ho : other = key <;> simp [ho]
      rw [if_neg hk, List.map_cons, ih, List.filter_cons_of_pos (by simpa using hk),
        List.eraseDups_cons, List.filter_filter]
      simp only [hboth]

theorem firstPerKey_nodup (seen : List ArtifactKey) (xs : List (ArtifactKey × Dependency)) :
    ((firstPerKey seen xs).map Prod.fst).Nodup := by
  induction xs generalizing seen with
  | nil => exact .nil
  | cons x xs ih =>
    obtain ⟨key, d⟩ := x
    rw [firstPerKey]
    by_cases hk : key ∈ seen
    · rw [if_pos hk]
      exact ih seen
    · rw [if_neg hk, List.map_cons, List.nodup_cons]
      refine ⟨fun hmem ↦ ?_, ih (key :: seen)⟩
      obtain ⟨p, hp, hkey⟩ := List.mem_map.mp hmem
      exact (firstPerKey_find? hp).1 (hkey ▸ List.mem_cons_self)

end FirstPerKey

theorem declarations_keys (layers : List Descriptor) (scope : Properties) :
    (declarations layers scope).map Prod.fst = (declaredKeys layers scope).eraseDups := by
  rw [declarations, firstPerKey_keys, declaredKeys, List.map_map]
  simp [Function.comp_def]

/-- The view has one entry for each artifact that the layers declare, in the order of first
declaration, and no other. -/
structure EffectiveView.ListsDeclared (view : EffectiveView) (layers : List Descriptor)
    (scope : Properties) : Prop where
  keys_eq : view.dependencies.map ResolvedDependency.key = (declaredKeys layers scope).eraseDups
  keys_nodup : (view.dependencies.map ResolvedDependency.key).Nodup
  declared_once : ∀ layer ∈ layers, ∀ d ∈ layer.dependencies,
    ∃! entry, entry ∈ view.dependencies ∧ entry.key = d.resolvedKey scope
  declared : ∀ entry ∈ view.dependencies,
    ∃ layer ∈ layers, ∃ d ∈ layer.dependencies, d.resolvedKey scope = entry.key

theorem EffectiveView.listsDeclared_of_keys {view : EffectiveView} {layers : List Descriptor}
    {scope : Properties}
    (h : view.dependencies.map ResolvedDependency.key = (declarations layers scope).map Prod.fst) :
    view.ListsDeclared layers scope := by
  have hnodup : (view.dependencies.map ResolvedDependency.key).Nodup :=
    h ▸ firstPerKey_nodup [] _
  have hkeys : view.dependencies.map ResolvedDependency.key =
      (declaredKeys layers scope).eraseDups := h.trans (declarations_keys layers scope)
  refine ⟨hkeys, hnodup, ?_, ?_⟩
  · intro layer hlayer d hd
    have hmem : d.resolvedKey scope ∈ view.dependencies.map ResolvedDependency.key := by
      rw [hkeys, List.mem_eraseDups]
      exact mem_declaredKeys.mpr ⟨layer, hlayer, d, hd, rfl⟩
    obtain ⟨entry, hentry, hkey⟩ := List.mem_map.mp hmem
    refine ⟨entry, ⟨hentry, hkey⟩, ?_⟩
    rintro other ⟨hother, hsame⟩
    exact List.inj_on_of_nodup_map hnodup hother hentry (hsame.trans hkey.symm)
  · intro entry hentry
    have hmem := List.mem_map_of_mem (f := ResolvedDependency.key) hentry
    rw [hkeys, List.mem_eraseDups] at hmem
    exact mem_declaredKeys.mp hmem

namespace Synthesizer

variable (s : Synthesizer)

theorem build_listsDeclared (leaf : Descriptor) (ancestorsRootFirst : List Descriptor)
    (rendered : Option Rendered) (cache : ImportCache) :
    (s.build leaf ancestorsRootFirst rendered cache).1.ListsDeclared
      (leaf :: ancestorsRootFirst.reverse)
      (leaf.scope ancestorsRootFirst (rendered.map Rendered.properties)) :=
  EffectiveView.listsDeclared_of_keys
    (map_mapM_run (g := ResolvedDependency.key) (h := Prod.fst) (fun _ _ ↦ rfl) _ cache)

/-- A view lists the artifacts that the leaf and its ancestors declare, the ancestors that only the
sources supply last. A detached view lists those of the leaf. -/
theorem synthesize_listsDeclared (leaf : Descriptor) (chainRootFirst : List Descriptor)
    (rendered : Option Rendered) (cache : ImportCache) :
    (s.synthesize leaf chainRootFirst rendered cache).1.ListsDeclared
        (leaf :: (chainRootFirst.reverse ++ s.externalParents leaf chainRootFirst))
        (s.scopeOf leaf chainRootFirst rendered) ∧
      (s.synthesizeDetached leaf rendered cache).1.ListsDeclared [leaf]
        (leaf.scope [] (rendered.map Rendered.properties)) := by
  refine ⟨?_, s.build_listsDeclared leaf [] rendered cache⟩
  have hview := s.build_listsDeclared leaf
    ((s.externalParents leaf chainRootFirst).reverse ++ chainRootFirst) rendered
    (s.logParents cache leaf chainRootFirst)
  rw [List.reverse_append, List.reverse_reverse] at hview
  rw [synthesize, scopeOf, layersOf, List.tail_cons, List.reverse_append, List.reverse_reverse]
  exact hview

def respellingLeaf : Descriptor :=
  { Descriptor.bare "leaf" with
    dependencies := [⟨⟨"g", "lib-$\x7bkind\x7d", some "1"⟩, none, none⟩,
      ⟨⟨"g", "lib-core", none⟩, none, none⟩]
    properties := Std.TreeMap.insert ∅ "kind" "core" }

example : (sourceless.synthesize respellingLeaf [declaringLeaf] none .empty).1.dependencies =
    [⟨"g", "lib-core", "1", "compile"⟩, ⟨"g", "lib", "3", "compile"⟩] := by decide +kernel

end Synthesizer

end Reactor
