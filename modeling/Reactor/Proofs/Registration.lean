import Reactor.Forest

namespace Reactor

namespace Forest

/-- The forest with one more node, whose key is new. -/
def extend (f : Forest) (d : Descriptor) : Forest where
  nodes := f.nodes.push d
  byKey := f.byKey.insert d.descriptorKey f.size
  aggregators := if d.isAggregator then f.aggregators.push f.size else f.aggregators
  declared := d.moduleKeys.foldl (fun m k ↦ m.insert k f.size) f.declared

/-- The forests that registrations lead to from an empty one. -/
inductive Reachable : Forest → Prop
  | empty : Reachable .empty
  | register {f : Forest} (d : Descriptor) : Reachable f → Reachable (f.register d).1

variable {f : Forest}

section Register

variable {d : Descriptor}

theorem register_of_known {id : NodeId} (h : f.byKey[d.descriptorKey]? = some id) :
    f.register d = (f, id) := by
  rw [register, h]

theorem register_of_new (h : f.byKey[d.descriptorKey]? = none) :
    f.register d = (f.extend d, f.size) := by
  rw [register, h]
  rfl

@[simp] theorem extend_size : (f.extend d).size = f.size + 1 := Array.size_push ..

theorem extend_nodes (id : NodeId) :
    (f.extend d).nodes[id]? = if id = f.size then some d else f.nodes[id]? :=
  Array.getElem?_push

theorem extend_aggregators : (f.extend d).aggregators.toList =
    f.aggregators.toList ++ if d.isAggregator then [f.size] else [] := by
  rw [extend]
  split <;> simp

end Register

theorem Reachable.induct {P : Forest → Prop} (hempty : P .empty)
    (hextend : ∀ f d, f.byKey[d.descriptorKey]? = none → P f → P (f.extend d))
    (h : f.Reachable) : P f := by
  induction h with
  | empty => exact hempty
  | @register f d _ ih =>
    cases hk : f.byKey[d.descriptorKey]? with
    | some id => rwa [register_of_known hk]
    | none =>
      rw [register_of_new hk]
      exact hextend f d hk ih

def aggregatorIds (f : Forest) : List NodeId :=
  (List.range f.size).filter fun id ↦ f.nodes[id]?.any Descriptor.isAggregator

theorem extend_aggregatorIds (d : Descriptor) : (f.extend d).aggregatorIds =
    f.aggregatorIds ++ if d.isAggregator then [f.size] else [] := by
  have hold : (List.range f.size).filter (fun id ↦ (f.extend d).nodes[id]?.any
      Descriptor.isAggregator) = f.aggregatorIds := by
    apply List.filter_congr
    intro id hid
    have hlt : id < f.size := List.mem_range.mp hid
    rw [extend_nodes, if_neg (Nat.ne_of_lt hlt)]
  rw [aggregatorIds, extend_size, List.range_succ, List.filter_append, hold, List.filter_cons,
    extend_nodes, if_pos rfl]
  rfl

theorem Reachable.aggregators_eq (h : f.Reachable) : f.aggregators.toList = f.aggregatorIds := by
  apply h.induct (P := fun f ↦ f.aggregators.toList = f.aggregatorIds)
  · rfl
  · intro f d _ ih
    rw [extend_aggregators, extend_aggregatorIds, ih]

theorem nodeWith?_eq_some_iff {key : ArtifactKey} {id : NodeId} {p : NodeId × Descriptor} :
    f.nodeWith? key id = some p ↔ id = p.1 ∧ f.nodes[p.1]? = some p.2 ∧ p.2.key = key := by
  obtain ⟨id', d⟩ := p
  simp only [nodeWith?, Option.map_eq_some_iff, Option.filter_eq_some_iff, beq_iff_eq,
    Prod.mk.injEq]
  constructor
  · rintro ⟨_, ⟨hd, hk⟩, rfl, rfl⟩
    exact ⟨rfl, hd, hk⟩
  · rintro ⟨rfl, hd, hk⟩
    exact ⟨d, ⟨hd, hk⟩, rfl, rfl⟩

theorem find?_spec {key : ArtifactKey} {id : NodeId} {d : Descriptor}
    (h : f.find? key = some (id, d)) : f.nodes[id]? = some d ∧ d.key = key := by
  rcases Option.or_eq_some_iff.mp h with h | ⟨-, h⟩
  · obtain ⟨_, -, h⟩ := List.exists_of_findSome?_eq_some h
    exact (nodeWith?_eq_some_iff.mp h).2
  · obtain ⟨_, -, h⟩ := List.exists_of_findSome?_eq_some h
    exact (nodeWith?_eq_some_iff.mp (Option.filter_eq_some_iff.mp h).1).2

theorem Reachable.find?_eq_none_iff (hf : f.Reachable) {key : ArtifactKey} :
    f.find? key = none ↔
      ∀ (id : NodeId) (d : Descriptor), f.nodes[id]? = some d → d.key ≠ key := by
  constructor
  · intro h id d hd hk
    have hnode : f.nodeWith? key id = some (id, d) := nodeWith?_eq_some_iff.mpr ⟨rfl, hd, hk⟩
    have hid : id ∈ List.range f.size :=
      List.mem_range.mpr (Array.getElem?_eq_some_iff.mp hd).choose
    obtain ⟨haggregators, hothers⟩ := Option.or_eq_none_iff.mp h
    rw [hf.aggregators_eq, List.findSome?_eq_none_iff] at haggregators
    rw [List.findSome?_eq_none_iff] at hothers
    cases ha : d.isAggregator with
    | true =>
      have hmem : id ∈ f.aggregatorIds := List.mem_filter.mpr ⟨hid, by simp [hd, ha]⟩
      simp [haggregators id hmem] at hnode
    | false => simpa [hnode, ha] using hothers id hid
  · intro h
    cases hfind : f.find? key with
    | none => rfl
    | some p =>
      obtain ⟨hd, hk⟩ := find?_spec hfind
      exact absurd hk (h _ _ hd)

end Forest

end Reactor
