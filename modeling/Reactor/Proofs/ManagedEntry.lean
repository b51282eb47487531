import Reactor.EffectiveView
import Reactor.Proofs.Coordinate

namespace Reactor

def Dependency.Pins (m : Dependency) (scope : Properties) (key : ArtifactKey) : Prop :=
  m.isImport = false ∧ m.resolvedKey scope = key ∧ m.coordinate.version.isSome = true

instance (m : Dependency) (scope : Properties) (key : ArtifactKey) :
    Decidable (m.Pins scope key) := inferInstanceAs (Decidable (_ ∧ _ ∧ _))

theorem Dependency.pinned?_isSome {m : Dependency} {scope : Properties} {key : ArtifactKey}
    (h : m.Pins scope key) : (m.pinned? scope).isSome = true := by
  rw [pinned?, Option.isSome_map]
  exact h.2.2

def scopedEntries (layers : List Descriptor) (scope : Properties) :
    List (Dependency × Properties) :=
  (layers.flatMap Descriptor.managed).map (·, scope)

def firstPin? (key : ArtifactKey) (entries : List (Dependency × Properties)) : Option Managed :=
  (entries.find? fun e ↦ e.1.Pins e.2 key).bind fun e ↦ e.1.pinned? e.2

theorem firstPin?_eq_findSome? (key : ArtifactKey) (entries : List (Dependency × Properties)) :
    firstPin? key entries =
      entries.findSome? fun e ↦ if e.1.Pins e.2 key then e.1.pinned? e.2 else none := by
  induction entries with
  | nil => rfl
  | cons e rest ih =>
    rw [List.findSome?_cons, ← ih]
    by_cases h : e.1.Pins e.2 key
    · obtain ⟨managed, hm⟩ := Option.isSome_iff_exists.mp (Dependency.pinned?_isSome h)
      simp [firstPin?, h, hm]
    · simp [firstPin?, h]

theorem firstPin?_append (key : ArtifactKey) (entries rest : List (Dependency × Properties)) :
    firstPin? key (entries ++ rest) = (firstPin? key entries).or (firstPin? key rest) := by
  simp only [firstPin?_eq_findSome?, List.findSome?_append]

theorem firstPin?_flatMap {α : Type} (key : ArtifactKey) (f : α → List (Dependency × Properties))
    (xs : List α) : firstPin? key (xs.flatMap f) = xs.findSome? fun x ↦ firstPin? key (f x) := by
  induction xs with
  | nil => rfl
  | cons x xs ih =>
    rw [List.flatMap_cons, firstPin?_append, ih, List.findSome?_cons]
    cases firstPin? key (f x) <;> rfl

theorem firstPin?_isSome_iff {key : ArtifactKey} {entries : List (Dependency × Properties)} :
    (firstPin? key entries).isSome = true ↔ ∃ e ∈ entries, e.1.Pins e.2 key := by
  rw [firstPin?_eq_findSome?, List.findSome?_isSome_iff]
  apply exists_congr
  intro e
  apply and_congr_right
  intro _
  by_cases h : e.1.Pins e.2 key
  · simp [h, Dependency.pinned?_isSome h]
  · simp [h]

theorem managedIn?_eq_firstPin? (layers : List Descriptor) (scope : Properties)
    (key : ArtifactKey) :
    managedIn? layers scope key = firstPin? key (scopedEntries layers scope) := by
  have hentry (m : Dependency) :
      (if !m.isImport && m.resolvedKey scope == key then m.pinned? scope else none) =
        if m.Pins scope key then m.pinned? scope else none := by
    by_cases hi : m.isImport <;> by_cases hk : m.resolvedKey scope = key <;>
      cases hv : m.coordinate.version <;> simp [Dependency.Pins, Dependency.pinned?, hi, hk, hv]
  rw [managedIn?, firstPin?_eq_findSome?, scopedEntries, List.findSome?_map]
  simp only [hentry, Function.comp_def]

/-- Some descriptor of the layers has an entry that pins the artifact. -/
def PinnedIn (layers : List Descriptor) (scope : Properties) (key : ArtifactKey) : Prop :=
  ∃ d ∈ layers, ∃ m ∈ d.managed, m.Pins scope key

theorem exists_mem_scopedEntries_iff {layers : List Descriptor} {scope : Properties}
    {key : ArtifactKey} :
    (∃ e ∈ scopedEntries layers scope, e.1.Pins e.2 key) ↔ PinnedIn layers scope key := by
  constructor
  · rintro ⟨_, he, h⟩
    obtain ⟨m, hm, rfl⟩ := List.mem_map.mp he
    obtain ⟨d, hd, hm⟩ := List.mem_flatMap.mp hm
    exact ⟨d, hd, m, hm, h⟩
  · rintro ⟨d, hd, m, hm, h⟩
    exact ⟨(m, scope), List.mem_map_of_mem (List.mem_flatMap.mpr ⟨d, hd, hm⟩), h⟩

theorem managedIn?_isSome_iff {layers : List Descriptor} {scope : Properties}
    {key : ArtifactKey} :
    (managedIn? layers scope key).isSome = true ↔ PinnedIn layers scope key := by
  rw [managedIn?_eq_firstPin?, firstPin?_isSome_iff, exists_mem_scopedEntries_iff]

namespace Imported

def imports (i : Imported) : List Coordinate := importsOf i.layers i.scope

def managed? (i : Imported) (key : ArtifactKey) : Option Managed := managedIn? i.layers i.scope key

def entries (i : Imported) : List (Dependency × Properties) := scopedEntries i.layers i.scope

def Pins (i : Imported) (key : ArtifactKey) : Prop := PinnedIn i.layers i.scope key

end Imported

section Bare

def Descriptor.managing (artifact : String) (managed : List Dependency) : Descriptor :=
  { Descriptor.bare artifact with managed }

def Dependency.importing (artifact : String) : Dependency :=
  ⟨.bare artifact, some "import", some "pom"⟩

def Dependency.pinning (artifact : String) : Dependency := ⟨.bare artifact, none, none⟩

def Source.ofList (descriptors : List Descriptor) : Source :=
  fun c ↦ descriptors.find? (·.coordinate == c)

end Bare

end Reactor
