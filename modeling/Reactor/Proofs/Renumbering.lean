import Mathlib.Data.List.Nodup
import Mathlib.Data.List.Perm.Basic
import Mathlib.Logic.Function.Basic
import Reactor.Proofs.Registry

namespace Reactor

def Lineage.renumber (π : NodeId → NodeId) (l : Lineage) : Lineage :=
  ⟨l.owner.map π, l.chain.map π⟩

namespace Forest

structure Renumbers (π : NodeId → NodeId) (f g : Forest) : Prop where
  injective : Function.Injective π
  size : g.size = f.size
  nodes : ∀ id, g.nodes[π id]? = f.nodes[id]?
  byKey : ∀ key : DescriptorKey, g.byKey[key]? = f.byKey[key]?.map π
  find? : ∀ key, g.find? key = (f.find? key).map (Prod.map π id)
  declared : ∀ key : DescriptorKey, g.declared[key]? = f.declared[key]?.map π

namespace Renumbers

variable {π : NodeId → NodeId} {f g : Forest} (h : f.Renumbers π g) (leaf : Descriptor)

include h

theorem parentsFrom (start : Descriptor) (remaining : Nat) (visited : List ArtifactKey)
    (parent : Option ArtifactKey) :
    g.parentsFrom start remaining visited parent =
      (f.parentsFrom start remaining visited parent).map (List.map π) := by
  induction remaining generalizing visited parent with
  | zero =>
    cases parent with
    | none => simp only [Forest.parentsFrom]; rfl
    | some key =>
      simp only [Forest.parentsFrom, h.find?]
      cases f.find? key <;> rfl
  | succ remaining ih =>
    cases parent with
    | none => simp only [Forest.parentsFrom]; rfl
    | some key =>
      simp only [Forest.parentsFrom, h.find?]
      cases hfind : f.find? key with
      | none => rfl
      | some p =>
        obtain ⟨id, d⟩ := p
        simp only [Option.map_some, Prod.map_apply, id_eq, ih]
        by_cases hmem : d.key ∈ visited
        · simp only [if_pos hmem]
          rfl
        · simp only [if_neg hmem]
          cases f.parentsFrom start remaining (d.key :: visited) d.ownParent? <;> rfl

theorem parentChain : g.parentChain leaf = (f.parentChain leaf).map (List.map π) := by
  rw [Forest.parentChain, h.size, h.parentsFrom]
  rfl

theorem bind_nodes (id : Option NodeId) :
    (id.map π).bind (g.nodes[·]?) = id.bind (f.nodes[·]?) := by
  cases id with
  | none => rfl
  | some id => exact h.nodes id

theorem filterMap_nodes (ids : List NodeId) :
    (ids.map π).filterMap (g.nodes[·]?) = ids.filterMap (f.nodes[·]?) := by
  rw [List.filterMap_map]
  simp only [Function.comp_def, h.nodes]

theorem declaresLeaf (owner : Descriptor) :
    g.declaresLeaf owner leaf = f.declaresLeaf owner leaf := by
  simp only [Forest.declaresLeaf, h.byKey, h.bind_nodes]

theorem isDeclaredBelow (a : NodeId) (steps : Nat) (path : Path) :
    g.isDeclaredBelow (π a) steps path = f.isDeclaredBelow a steps path := by
  induction steps generalizing path with
  | zero => rfl
  | succ steps ih =>
    simp only [Forest.isDeclaredBelow, declaringAggregator?, h.declared]
    cases f.declared[path.descriptorKey]? with
    | none => rfl
    | some id =>
      -- the walk tells nodes apart by their numbers alone
      have hid : (π id == π a) = (id == a) := by
        rw [Bool.eq_iff_iff, beq_iff_eq, beq_iff_eq, h.injective.eq_iff]
      simp only [Option.map_some, h.nodes, hid]
      cases f.nodes[id]? with
      | none => rfl
      | some d => simp only [ih]

theorem isDescendant (a : NodeId) : g.isDescendant leaf (π a) = f.isDescendant leaf a := by
  simp only [Forest.isDescendant, h.nodes, h.size, h.isDeclaredBelow, h.declaresLeaf]

theorem owns (a : NodeId) : g.owns leaf (π a) = f.owns leaf a := by
  rw [Forest.owns, h.nodes, h.isDescendant, Forest.owns]

theorem lineage : g.lineage leaf = (f.lineage leaf).map (Lineage.renumber π) := by
  rw [Forest.lineage, h.parentChain, Forest.lineage]
  cases f.parentChain leaf with
  | error e => rfl
  | ok chain =>
    have howns : g.owns leaf ∘ π = f.owns leaf := funext (h.owns leaf)
    simp only [Except.map, Lineage.renumber, List.find?_map, howns]

theorem load : g.load = f.load := by
  funext c
  rw [Forest.load, h.find?, Forest.load, Option.bind_map]
  rfl

end Renumbers

/-- No artifact has two nodes, and no key is declared by two nodes. -/
structure Unambiguous (f : Forest) : Prop where
  key : ∀ d ∈ f.nodes, ∀ e ∈ f.nodes, d.key = e.key → d = e
  declarer : ∀ d ∈ f.nodes, ∀ e ∈ f.nodes, ∀ key ∈ d.moduleKeys, key ∈ e.moduleKeys → d = e

variable {f g : Forest}

theorem Reachable.eq_of_node (hf : f.Reachable) {i j : NodeId} {d : Descriptor}
    (hi : f.nodes[i]? = some d) (hj : f.nodes[j]? = some d) : i = j :=
  hf.eq_of_descriptorKey_eq hi hj rfl

theorem Reachable.nodup (hf : f.Reachable) : f.nodes.toList.Nodup := by
  rw [List.nodup_iff_getElem?_ne_getElem?]
  intro i j hij hj heq
  obtain ⟨d, hd⟩ : ∃ d, f.nodes.toList[j]? = some d := ⟨_, List.getElem?_eq_getElem hj⟩
  rw [hd, Array.getElem?_toList] at heq
  rw [Array.getElem?_toList] at hd
  exact Nat.ne_of_lt hij (hf.eq_of_node heq hd)

theorem Unambiguous.congr (hu : f.Unambiguous) (hsame : ∀ d, d ∈ f.nodes ↔ d ∈ g.nodes) :
    g.Unambiguous where
  key d hd e he := hu.key d ((hsame d).mpr hd) e ((hsame e).mpr he)
  declarer d hd e he := hu.declarer d ((hsame d).mpr hd) e ((hsame e).mpr he)

section Unambiguous

variable (hf : f.Reachable) (hu : f.Unambiguous)

include hf hu

theorem find?_eq_some_iff {key : ArtifactKey} {id : NodeId} {d : Descriptor} :
    f.find? key = some (id, d) ↔ f.nodes[id]? = some d ∧ d.key = key := by
  constructor
  · exact find?_spec
  · rintro ⟨hd, rfl⟩
    -- whichever node comes first in the search, it is the only one of the artifact
    cases hfind : f.find? d.key with
    | none => exact absurd rfl (hf.find?_eq_none_iff.mp hfind id d hd)
    | some p =>
      obtain ⟨hp, hkey⟩ := find?_spec hfind
      have hpd : p.2 = d := hu.key _ (Array.mem_of_getElem? hp) _ (Array.mem_of_getElem? hd) hkey
      have hid : p.1 = id := hf.eq_of_node (hpd ▸ hp) hd
      rw [← hid, ← hpd]

theorem declared_eq_some_iff_declares {key : DescriptorKey} {a : NodeId} :
    f.declared[key]? = some a ↔ f.Declares a key := by
  rw [hf.declared_eq_some_iff]
  -- an only declarer is the last one
  refine ⟨fun h ↦ h.1, fun h ↦ ⟨h, ?_⟩⟩
  intro b hb
  obtain ⟨d, hd, hdkey⟩ := declares_iff.mp h
  obtain ⟨e, he, hekey⟩ := declares_iff.mp hb
  obtain rfl : d = e :=
    hu.declarer _ (Array.mem_of_getElem? hd) _ (Array.mem_of_getElem? he) key hdkey hekey
  exact Nat.le_of_eq (hf.eq_of_node he hd)

end Unambiguous

def numberIn (f g : Forest) (id : NodeId) : NodeId :=
  (f.nodes[id]?.bind fun d ↦ g.byKey[d.descriptorKey]?).getD id

section NumberIn

variable {i j : NodeId} {d : Descriptor}

theorem numberIn_of_node (hg : g.Reachable) (hi : f.nodes[i]? = some d)
    (hj : g.nodes[j]? = some d) : f.numberIn g i = j := by
  have hkey : g.byKey[d.descriptorKey]? = some j := (hg.byKey_eq_some_iff _ _).mpr ⟨d, hj, rfl⟩
  rw [numberIn, hi, Option.bind_some, hkey, Option.getD_some]

theorem numberIn_of_none (hi : f.nodes[i]? = none) : f.numberIn g i = i := by
  rw [numberIn, hi]
  rfl

variable (hf : f.Reachable) (hg : g.Reachable) (hsame : ∀ d, d ∈ f.nodes ↔ d ∈ g.nodes)

include hf hg hsame

theorem size_eq_of_same : g.size = f.size := by
  have hperm : g.nodes.toList.Perm f.nodes.toList := by
    rw [List.perm_ext_iff_of_nodup hg.nodup hf.nodup]
    intro d
    rw [Array.mem_toList_iff, Array.mem_toList_iff, hsame]
  exact hperm.length_eq

theorem nodes_numberIn (i : NodeId) : g.nodes[f.numberIn g i]? = f.nodes[i]? := by
  cases hi : f.nodes[i]? with
  | none =>
    rw [numberIn_of_none hi, Array.getElem?_eq_none_iff]
    rw [Array.getElem?_eq_none_iff] at hi
    exact (size_eq_of_same hf hg hsame).trans_le hi
  | some d =>
    obtain ⟨j, hj⟩ := Array.mem_iff_getElem?.mp ((hsame d).mp (Array.mem_of_getElem? hi))
    rw [numberIn_of_node hg hi hj, hj]

theorem numberIn_injective : Function.Injective (f.numberIn g) := by
  intro i j hij
  have hnodes : f.nodes[i]? = f.nodes[j]? := by
    rw [← nodes_numberIn hf hg hsame, ← nodes_numberIn hf hg hsame, hij]
  cases hi : f.nodes[i]? with
  | none => rwa [numberIn_of_none hi, numberIn_of_none (hnodes ▸ hi)] at hij
  | some d => exact hf.eq_of_node hi (hnodes ▸ hi)

theorem node_iff_numberIn :
    g.nodes[j]? = some d ↔ ∃ i, f.nodes[i]? = some d ∧ f.numberIn g i = j := by
  constructor
  · intro hj
    obtain ⟨i, hi⟩ := Array.mem_iff_getElem?.mp ((hsame d).mpr (Array.mem_of_getElem? hj))
    exact ⟨i, hi, numberIn_of_node hg hi hj⟩
  · rintro ⟨i, hi, rfl⟩
    rw [nodes_numberIn hf hg hsame, hi]

theorem declares_iff_numberIn {key : DescriptorKey} :
    g.Declares j key ↔ ∃ i, f.Declares i key ∧ f.numberIn g i = j := by
  simp only [declares_iff, node_iff_numberIn hf hg hsame]
  constructor
  · rintro ⟨d, ⟨i, hi, rfl⟩, hkey⟩
    exact ⟨i, ⟨d, hi, hkey⟩, rfl⟩
  · rintro ⟨i, ⟨d, hi, hkey⟩, rfl⟩
    exact ⟨d, ⟨i, hi, rfl⟩, hkey⟩

theorem byKey_numberIn (key : DescriptorKey) :
    g.byKey[key]? = f.byKey[key]?.map (f.numberIn g) := by
  ext j
  simp only [hg.byKey_eq_some_iff, node_iff_numberIn hf hg hsame, Option.map_eq_some_iff,
    hf.byKey_eq_some_iff]
  constructor
  · rintro ⟨d, ⟨i, hi, rfl⟩, hkey⟩
    exact ⟨i, ⟨d, hi, hkey⟩, rfl⟩
  · rintro ⟨i, ⟨d, hi, hkey⟩, rfl⟩
    exact ⟨d, ⟨i, hi, rfl⟩, hkey⟩

theorem renumbers_numberIn (hu : f.Unambiguous) : f.Renumbers (f.numberIn g) g where
  injective := numberIn_injective hf hg hsame
  size := size_eq_of_same hf hg hsame
  nodes := nodes_numberIn hf hg hsame
  byKey := byKey_numberIn hf hg hsame
  find? key := by
    ext ⟨j, d⟩
    rw [find?_eq_some_iff hg (hu.congr hsame), node_iff_numberIn hf hg hsame]
    constructor
    · rintro ⟨⟨i, hi, rfl⟩, hkey⟩
      rw [(find?_eq_some_iff hf hu).mpr ⟨hi, hkey⟩]
      rfl
    · intro h
      obtain ⟨⟨i, e⟩, hfind, heq⟩ := Option.map_eq_some_iff.mp h
      obtain ⟨rfl, rfl⟩ := Prod.mk.inj heq
      obtain ⟨hi, hkey⟩ := (find?_eq_some_iff hf hu).mp hfind
      exact ⟨⟨i, hi, rfl⟩, hkey⟩
  declared key := by
    ext j
    rw [declared_eq_some_iff_declares hg (hu.congr hsame), declares_iff_numberIn hf hg hsame]
    simp only [Option.map_eq_some_iff, declared_eq_some_iff_declares hf hu]

end NumberIn

end Forest

end Reactor
