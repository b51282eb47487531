import Mathlib.Data.List.Basic
import Reactor.Proofs.Coordinate
import Reactor.PropertyScope

namespace Reactor

theorem findSome?_reverse_eq_some_iff {α β : Type} {f : α → Option β} {xs : List α} {b : β} :
    xs.reverse.findSome? f = some b ↔
      ∃ earlier x later, xs = earlier ++ x :: later ∧ f x = some b ∧ ∀ y ∈ later, f y = none := by
  rw [List.findSome?_eq_some_iff]
  constructor
  · rintro ⟨later, x, earlier, hxs, hx, hlater⟩
    refine ⟨earlier.reverse, x, later.reverse, ?_, hx, ?_⟩
    · rw [← List.reverse_inj, hxs]
      simp
    · intro y hy
      exact hlater y (List.mem_reverse.mp hy)
  · rintro ⟨earlier, x, later, rfl, hx, hlater⟩
    refine ⟨later.reverse, x, earlier.reverse, by simp, hx, ?_⟩
    intro y hy
    exact hlater y (List.mem_reverse.mp hy)

namespace Properties

theorem getElem?_foldl_insert (entries : List (String × String)) (properties : Properties)
    (name : String) :
    (entries.foldl (fun m p ↦ m.insert p.1 p.2) properties)[name]? =
      (entries.reverse.lookup name).or properties[name]? := by
  induction entries generalizing properties with
  | nil => rfl
  | cons p rest ih =>
    obtain ⟨k, v⟩ := p
    rw [List.foldl_cons, ih, List.reverse_cons, List.lookup_append, Option.or_assoc]
    congr 1
    by_cases h : name = k
    · simp [h]
    · have hne : compare k name ≠ .eq := fun heq ↦ h (Std.LawfulEqCmp.eq_of_compare heq).symm
      simp [Std.TreeMap.getElem?_insert, h, hne]

theorem lookup_eq_some_iff_mem {entries : List (String × String)}
    (h : entries.Pairwise (·.1 ≠ ·.1)) {name value : String} :
    entries.lookup name = some value ↔ (name, value) ∈ entries := by
  induction h with
  | nil => simp
  | @cons p rest hp _ ih =>
    obtain ⟨k, v⟩ := p
    rw [List.lookup_cons, List.mem_cons, Prod.mk.injEq]
    by_cases hk : name = k
    · have hrest : (k, value) ∉ rest := fun hmem ↦ hp _ hmem rfl
      simp [hk, hrest, eq_comm]
    · have hne : (name == k) = false := beq_false_of_ne hk
      simp [hk, hne, ih]

theorem lookup_reverse_toList (properties : Properties) (name : String) :
    properties.toList.reverse.lookup name = properties[name]? := by
  have hdistinct : properties.toList.reverse.Pairwise (·.1 ≠ ·.1) := by
    rw [List.pairwise_reverse]
    refine Std.TreeMap.distinct_keys_toList.imp ?_
    intro p q hne heq
    exact hne (Std.LawfulEqCmp.compare_eq_iff_eq.mpr heq.symm)
  ext value
  rw [lookup_eq_some_iff_mem hdistinct, List.mem_reverse,
    Std.TreeMap.mem_toList_iff_getElem?_eq_some]

theorem getElem?_layer (low high : Properties) (name : String) :
    (low.layer high)[name]? = high[name]?.or low[name]? := by
  rw [layer, Std.TreeMap.foldl_eq_foldl_toList, getElem?_foldl_insert, lookup_reverse_toList]

end Properties

namespace Descriptor

def builtin? (d : Descriptor) : String → Option String
  | "project.groupId" | "pom.groupId" => d.coordinate.group
  | "project.artifactId" | "pom.artifactId" => d.coordinate.artifact
  | "project.version" | "pom.version" => d.coordinate.version
  | "project.parent.groupId" | "pom.parent.groupId" => d.parentCoordinate?.map Coordinate.group
  | "project.parent.artifactId" | "pom.parent.artifactId" =>
    d.parentCoordinate?.map Coordinate.artifact
  | "project.parent.version" | "pom.parent.version" | "parent.version" =>
    d.parentCoordinate?.bind Coordinate.version
  | _ => none

variable (d : Descriptor)

theorem builtins_distinct : d.builtins.Pairwise (·.1 ≠ ·.1) := by
  rw [builtins, builtinsUnder, builtinsUnder]
  cases d.parentCoordinate? with
  | none => cases d.coordinate.version <;> simp
  | some p => cases d.coordinate.version <;> cases hv : p.version <;> simp [hv]

theorem mem_builtins_iff {name value : String} :
    (name, value) ∈ d.builtins ↔ d.builtin? name = some value := by
  rw [builtins, builtinsUnder, builtinsUnder]
  fun_cases d.builtin? name
  -- the last case is that of all other names
  case case14 => cases d.parentCoordinate? <;> simp <;> grind
  all_goals cases d.parentCoordinate? <;> simp [@eq_comm _ value]

theorem lookup_builtins (name : String) : d.builtins.reverse.lookup name = d.builtin? name := by
  ext value
  rw [Properties.lookup_eq_some_iff_mem, List.mem_reverse, mem_builtins_iff]
  exact List.pairwise_reverse.mpr (d.builtins_distinct.imp Ne.symm)

theorem getElem?_foldl_layer (ancestors : List Descriptor) (base : Properties) (name : String) :
    (ancestors.foldl (fun m a ↦ m.layer a.properties) base)[name]? =
      (ancestors.reverse.findSome? (·.properties[name]?)).or base[name]? := by
  induction ancestors generalizing base with
  | nil => rfl
  | cons a rest ih =>
    rw [List.foldl_cons, ih, Properties.getElem?_layer, List.reverse_cons, List.findSome?_append,
      Option.or_assoc]
    simp

theorem getElem?_scope (ancestors : List Descriptor) (base : Option Properties) (name : String) :
    (d.scope ancestors base)[name]? =
      (((d.builtin? name).or d.properties[name]?).or
        (ancestors.reverse.findSome? (·.properties[name]?))).or (base.getD ∅)[name]? := by
  rw [scope, Properties.getElem?_foldl_insert, lookup_builtins, Properties.getElem?_layer,
    getElem?_foldl_layer, Option.or_assoc, Option.or_assoc]

/-- A scope gives a name the built-in of the descriptor, else the descriptor's own property, else
that of the nearest ancestor which has one, else that of the base. Of its ancestors it takes the
properties and nothing else. -/
theorem scope_precedence (ancestors : List Descriptor) (base : Option Properties) :
    (∀ name, (d.scope ancestors base)[name]? =
      (((d.builtin? name).or d.properties[name]?).or
        (ancestors.reverse.findSome? (·.properties[name]?))).or (base.bind (·[name]?))) ∧
      ∀ others : List Descriptor,
        others.map Descriptor.properties = ancestors.map Descriptor.properties →
        d.scope others base = d.scope ancestors base := by
  constructor
  · intro name
    have hbase : (base.getD ∅)[name]? = base.bind (·[name]?) := by
      cases base <;> simp
    rw [getElem?_scope, hbase]
  · intro others h
    have hinherited (layers : List Descriptor) :
        layers.foldl (fun m a ↦ m.layer a.properties) (base.getD ∅) =
          (layers.map Descriptor.properties).foldl Properties.layer (base.getD ∅) :=
      List.foldl_map.symm
    rw [scope, scope, hinherited, hinherited, h]

section Shadowing

def versionless : Descriptor := { Descriptor.bare "leaf" with coordinate := ⟨"g", "leaf", none⟩ }

def imposing (artifact version : String) : Descriptor :=
  { Descriptor.bare artifact with
    coordinate := ⟨"g", artifact, some version⟩
    properties := (Std.TreeMap.insert ∅ "project.version" "inherited").insert
      "project.artifactId" "inherited" }

/-- The property of an ancestor shows where the built-in is absent, the version of no ancestor does,
and the built-in that is there hides the property. -/
theorem versionless_scope :
    let base : Option Properties := some (Std.TreeMap.insert ∅ "project.version" "base")
    let ancestors := [imposing "root" "8", .bare "middle"]
    let others := [imposing "stranger" "9", .bare "middle"]
    (versionless.scope ancestors base)["project.version"]? = some "inherited" ∧
      (versionless.scope ancestors base)["project.artifactId"]? = some "leaf" ∧
      others.map Descriptor.properties = ancestors.map Descriptor.properties ∧
      versionless.scope others base = versionless.scope ancestors base := by
  intro base ancestors others
  obtain ⟨hname, hothers⟩ := versionless.scope_precedence ancestors base
  refine ⟨?_, ?_, rfl, hothers others rfl⟩
  · rw [hname]
    decide +kernel
  · rw [hname]
    decide +kernel

end Shadowing

end Descriptor

end Reactor
