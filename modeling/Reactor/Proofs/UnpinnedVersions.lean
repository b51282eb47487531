import Reactor.Proofs.ImportDepth
import Reactor.Proofs.PlaceholderSplit
import Reactor.Proofs.VersionPrecedence

namespace Reactor

open Placeholder

/-- Substitution leaves nothing of the text: it holds placeholders alone, each of an empty
property. -/
def Vanishes (text : String) (scope : Properties) : Prop :=
  ∀ piece ∈ pieces text.toList,
    ∃ name, piece = .placeholder name ∧ scope[String.ofList name]? = some ""

theorem Placeholder.Piece.substituted_eq_nil_iff {piece : Piece} {scope : Properties} :
    piece.substituted scope = [] ↔
      ∃ name, piece = .placeholder name ∧ scope[String.ofList name]? = some "" := by
  cases piece with
  | literal c => simp [substituted]
  | placeholder name =>
    rw [substituted]
    cases hvalue : scope[String.ofList name]? <;> simp [text, hvalue]

theorem substitute_eq_empty_iff {text : String} {scope : Properties} :
    substitute text scope = "" ↔ Vanishes text scope := by
  rw [substitute, ← String.toList_inj, String.toList_ofList, String.toList_empty,
    List.flatMap_eq_nil_iff]
  simp only [Piece.substituted_eq_nil_iff, Vanishes]

theorem substitute_empty (text : String) : substitute text ∅ = text := by
  have htext : ∀ piece : Piece, piece.substituted ∅ = piece.text := by
    intro piece
    cases piece <;> simp [Piece.substituted, Piece.text]
  rw [substitute, List.flatMap_congr fun piece _ ↦ htext piece, flatMap_text_pieces,
    String.ofList_toList]

def pinTexts (key : ArtifactKey) (entries : List (Dependency × Properties)) :
    List (String × Properties) :=
  entries.filterMap fun e ↦ if e.1.Pins e.2 key then e.1.coordinate.version.map (·, e.2) else none

theorem firstPin?_map_version (key : ArtifactKey) (entries : List (Dependency × Properties)) :
    (firstPin? key entries).map Managed.version =
      (pinTexts key entries).head?.map fun text ↦ substitute text.1 text.2 := by
  rw [firstPin?_eq_findSome?, pinTexts, List.head?_filterMap, List.map_findSome?,
    List.map_findSome?]
  congr 1
  funext e
  by_cases h : e.1.Pins e.2 key
  · cases hv : e.1.coordinate.version <;> simp [Dependency.pinned?, h, hv]
  · simp [h]

theorem pinTexts_eq_nil_iff {key : ArtifactKey} {entries : List (Dependency × Properties)} :
    pinTexts key entries = [] ↔ firstPin? key entries = none := by
  rw [← List.head?_eq_none_iff, ← Option.map_eq_none_iff, ← firstPin?_map_version,
    Option.map_eq_none_iff]

namespace Synthesizer

variable (s : Synthesizer)

def managedEntries (layers : List Descriptor) (scope : Properties) :
    List (Dependency × Properties) :=
  scopedEntries layers scope ++
    (s.tour s.maxImportDepth (importsOf layers scope) []).1.flatMap (·.imported.entries)

/-- All that speaks about the version of an artifact, the strongest first. A rendered version is
taken as it stands. -/
def versionTexts (declared : Dependency) (key : ArtifactKey) (layers : List Descriptor)
    (scope : Properties) (rendered : Option Rendered) : List (String × Properties) :=
  declared.coordinate.version.toList.map (·, scope) ++
    pinTexts key (s.managedEntries layers scope) ++
    (rendered.bind (·.version? key)).toList.map (·, ∅)

/-- Neither its declaration nor any other source has a version for the artifact. -/
structure IsUnpinned (declared : Dependency) (key : ArtifactKey) (layers : List Descriptor)
    (scope : Properties) (rendered : Option Rendered) : Prop where
  undeclared : declared.coordinate.version = none
  unmanaged : ¬ PinnedIn layers scope key
  unimported : ∀ visit ∈ (s.tour s.maxImportDepth (importsOf layers scope) []).1,
    ¬ visit.imported.Pins key
  unrendered : rendered.bind (·.version? key) = none

variable {s} {declared : Dependency} {key : ArtifactKey} {layers : List Descriptor}
  {scope : Properties} {rendered : Option Rendered}

theorem pin?_eq_firstPin? (key : ArtifactKey) (layers : List Descriptor) (scope : Properties) :
    s.pin? key layers scope = firstPin? key (s.managedEntries layers scope) := by
  rw [pin?, importPin?_eq_firstPin?, managedEntries, firstPin?_append]

theorem pin?_eq_none_iff :
    s.pin? key layers scope = none ↔ ¬ PinnedIn layers scope key ∧
      ∀ visit ∈ (s.tour s.maxImportDepth (importsOf layers scope) []).1,
        ¬ visit.imported.Pins key := by
  rw [pin?, ← managedIn?_eq_firstPin?, Option.or_eq_none_iff, ← Option.not_isSome_iff_eq_none,
    ← Option.not_isSome_iff_eq_none, managedIn?_isSome_iff, importPin?_isSome_iff]
  simp

theorem isUnpinned_iff :
    s.IsUnpinned declared key layers scope rendered ↔
      s.versionTexts declared key layers scope rendered = [] := by
  rw [versionTexts, List.append_eq_nil_iff, List.append_eq_nil_iff, pinTexts_eq_nil_iff,
    ← pin?_eq_firstPin?, pin?_eq_none_iff]
  simp only [List.map_eq_nil_iff, Option.toList_eq_nil_iff]
  constructor
  · rintro ⟨hdeclared, hlayers, himports, hrendered⟩
    exact ⟨⟨hdeclared, hlayers, himports⟩, hrendered⟩
  · rintro ⟨⟨hdeclared, hlayers, himports⟩, hrendered⟩
    exact ⟨hdeclared, hlayers, himports, hrendered⟩

theorem head?_versionTexts :
    ((s.versionTexts declared key layers scope rendered).head?.map
        fun text ↦ substitute text.1 text.2) =
      ((declared.coordinate.version.map (substitute · scope)).or
        ((s.pin? key layers scope).map Managed.version)).or
        (rendered.bind (·.version? key)) := by
  rw [versionTexts, List.head?_append, List.head?_append, Option.map_or, Option.map_or,
    pin?_eq_firstPin?, firstPin?_map_version]
  congr 1
  · congr 1
    cases declared.coordinate.version <;> rfl
  · cases rendered.bind (·.version? key) with
    | none => rfl
    | some version => exact congrArg some (substitute_empty version)

theorem head?_substituted_eq_empty_iff {texts : List (String × Properties)} :
    (texts.head?.map fun text ↦ substitute text.1 text.2).getD "" = "" ↔
      texts = [] ∨ ∃ text, texts.head? = some text ∧ Vanishes text.1 text.2 := by
  cases texts with
  | nil => simp
  | cons text rest => simp [substitute_eq_empty_iff]

/-- A dependency of a view counts as unversioned just if nothing pins it, or if of the text that
speaks first about its version nothing is left. -/
theorem isVersioned_exact {cache : ImportCache} (hcache : cache.Reachable s) (leaf : Descriptor)
    (chainRootFirst : List Descriptor) (rendered : Option Rendered) (d : ResolvedDependency)
    (hd : d ∈ (s.synthesize leaf chainRootFirst rendered cache).1.dependencies) :
    let layers := s.layersOf leaf chainRootFirst
    let scope := s.scopeOf leaf chainRootFirst rendered
    ∃ declared,
      (layers.flatMap Descriptor.dependencies).find? (·.resolvedKey scope == d.key) =
        some declared ∧
      (d.isVersioned = false ↔ d.version = "") ∧
      (d.version = "" ↔
        s.IsUnpinned declared d.key layers scope rendered ∨
          ∃ text, (s.versionTexts declared d.key layers scope rendered).head? = some text ∧
            Vanishes text.1 text.2) := by
  intro layers scope
  rw [synthesize_dependencies hcache] at hd
  obtain ⟨declared, hdeclared, hversion, -⟩ := mem_resolvedIn hd
  refine ⟨declared, declarations_find? hdeclared, by simp [ResolvedDependency.isVersioned], ?_⟩
  rw [hversion, ← head?_versionTexts, head?_substituted_eq_empty_iff, ← isUnpinned_iff]

section Emptied

def emptiedLeaf : Descriptor :=
  { Descriptor.managing "leaf" [.pinning "lib"] with
    dependencies := [⟨⟨"g", "lib", some "$\x7bv\x7d"⟩, none, none⟩]
    properties := .ofList [("v", "")] }

theorem emptiedLeaf_dependencies :
    (sourceless.synthesize emptiedLeaf [] none .empty).1.dependencies =
      [⟨"g", "lib", "", "compile"⟩] := by decide +kernel

theorem emptiedLeaf_pinned :
    PinnedIn (sourceless.layersOf emptiedLeaf []) (sourceless.scopeOf emptiedLeaf [] none)
      ⟨"g", "lib"⟩ :=
  ⟨emptiedLeaf, List.mem_cons_self, .pinning "lib", List.mem_cons_self, by decide +kernel⟩

theorem emptiedLeaf_vanishes :
    ImportCache.empty.Reachable sourceless ∧
      (⟨"g", "lib", "", "compile"⟩ : ResolvedDependency) ∈
        (sourceless.synthesize emptiedLeaf [] none .empty).1.dependencies ∧
      ∃ declared text,
        (sourceless.versionTexts declared ⟨"g", "lib"⟩ (sourceless.layersOf emptiedLeaf [])
          (sourceless.scopeOf emptiedLeaf [] none) none).head? = some text ∧
        Vanishes text.1 text.2 := by
  have hmem : (⟨"g", "lib", "", "compile"⟩ : ResolvedDependency) ∈
      (sourceless.synthesize emptiedLeaf [] none .empty).1.dependencies := by
    rw [emptiedLeaf_dependencies]
    exact List.mem_singleton_self _
  obtain ⟨declared, -, -, hempty⟩ := isVersioned_exact .empty emptiedLeaf [] none _ hmem
  obtain hunpinned | ⟨text, htext, hvanishes⟩ := hempty.mp rfl
  · exact absurd emptiedLeaf_pinned hunpinned.unmanaged
  · exact ⟨.empty, hmem, declared, text, htext, hvanishes⟩

/-- A version that is declared and managed comes out empty, and its dependency counts as
unversioned. -/
theorem emptied_unversioned :
    ∃ d ∈ (sourceless.synthesize emptiedLeaf [] none .empty).1.dependencies,
      d.version = "" ∧ d.isVersioned = false ∧
      (∃ declared ∈ emptiedLeaf.dependencies, declared.key = d.key ∧
        declared.coordinate.version = some "$\x7bv\x7d") ∧
      PinnedIn (sourceless.layersOf emptiedLeaf []) (sourceless.scopeOf emptiedLeaf [] none)
        d.key := by
  refine ⟨⟨"g", "lib", "", "compile"⟩, ?_, rfl, rfl, ?_, emptiedLeaf_pinned⟩
  · rw [emptiedLeaf_dependencies]
    exact List.mem_singleton_self _
  · exact ⟨_, List.mem_cons_self, rfl, rfl⟩

end Emptied

end Synthesizer

end Reactor
