import Reactor.Proofs.Descent
import Reactor.Proofs.ParentChain

namespace Reactor

namespace Forest

variable {f : Forest} {a l : NodeId} {leaf : Descriptor} {chain : List NodeId}

theorem Climb.node_of_mem {d top : Descriptor} {path : List (NodeId × Descriptor)}
    (h : f.Climb d path top) : ∀ p ∈ path, f.nodes[p.1]? = some p.2 := by
  induction h with
  | here => simp
  | up hp _ ih => exact List.forall_mem_cons.mpr ⟨(parentOf?_spec hp).1, ih⟩

theorem Stops.of_parentChain {d : Descriptor} (hd : d.key ∈ f.keys)
    (h : f.parentChain d = .ok chain) : f.Stops d chain := by
  obtain ⟨stopped, hstops⟩ | ⟨key, hrepeats⟩ := stops_or_repeats hd
  · obtain rfl : stopped = chain := Except.ok.inj ((hstops.parentChain_eq hd).symm.trans h)
    exact hstops
  · rw [hrepeats.parentChain_eq hd] at h
    cases h

theorem notMem_parentChain (hl : f.nodes[l]? = some leaf) (h : f.parentChain leaf = .ok chain) :
    l ∉ chain := by
  obtain ⟨path, top, hclimb, -, hnodup, rfl⟩ := Stops.of_parentChain (key_mem_keys hl) h
  intro hmem
  obtain ⟨p, hp, rfl⟩ := List.mem_map.mp hmem
  obtain rfl : p.2 = leaf := Option.some.inj ((hclimb.node_of_mem p hp).symm.trans hl)
  -- no parent of the chain has the leaf's artifact
  exact (List.nodup_cons.mp hnodup).1 (List.mem_map_of_mem hp)

theorem lineage_eq_ok_iff {found : Lineage} :
    f.lineage leaf = .ok found ↔
      f.parentChain leaf = .ok found.chain ∧ found.chain.find? (f.owns leaf) = found.owner := by
  obtain ⟨owner, chain⟩ := found
  rw [lineage]
  cases f.parentChain leaf with
  | error e => simp [Except.map]
  | ok known =>
    simp only [Except.map, Except.ok.injEq, Lineage.mk.injEq]
    constructor
    · rintro ⟨rfl, rfl⟩
      exact ⟨rfl, rfl⟩
    · rintro ⟨rfl, hfind⟩
      exact ⟨hfind, rfl⟩

theorem owns_iff :
    f.owns leaf a = true ↔
      (∃ d, f.nodes[a]? = some d ∧ d.isAggregator = true) ∧ f.isDescendant leaf a = true := by
  rw [owns, Bool.and_eq_true, Option.any_eq_true]

/-- An owner is an aggregator of the chain, the nearest whose modules lead to the leaf, and a chain
of declarations leads from it to the leaf, or one declaration to the leaf's artifact. The search for
declarers comes to an end by itself, and ownership is what it finds. -/
theorem lineage_owner_nearest (hf : f.Reachable) :
    (∀ (l a : NodeId) (leaf : Descriptor) (chain : List NodeId), f.nodes[l]? = some leaf →
      f.lineage leaf = .ok ⟨some a, chain⟩ →
      a ≠ l ∧
      (∃ d, f.nodes[a]? = some d ∧ d.isAggregator = true) ∧
      (∃ nearer farther, chain = nearer ++ a :: farther ∧ ∀ b ∈ nearer,
        ¬ ((∃ d, f.nodes[b]? = some d ∧ d.isAggregator = true) ∧
          f.isDescendant leaf b = true)) ∧
      (Relation.TransGen f.DeclaresNode a l ∨ f.DeclaresArtifact a leaf.key)) ∧
    ∀ (l a : NodeId) (leaf : Descriptor), f.nodes[l]? = some leaf →
      ∃! found, f.DeclarerWalk a [] l found ∧
        f.isDescendant leaf a = (f.nodes[a]?.any (f.declaresLeaf · leaf) || found) := by
  constructor
  · intro l a leaf chain hl hlineage
    obtain ⟨hchain, hfind⟩ := lineage_eq_ok_iff.mp hlineage
    obtain ⟨howns, nearer, farther, hsplit, hnearer⟩ := List.find?_eq_some_iff_append.mp hfind
    obtain ⟨haggregator, hdescendant⟩ := owns_iff.mp howns
    have hmem : a ∈ chain := List.mem_of_find?_eq_some hfind
    refine ⟨?_, haggregator, ⟨nearer, farther, hsplit, ?_⟩, ?_⟩
    · rintro rfl
      exact notMem_parentChain hl hchain hmem
    · intro b hb
      rw [← owns_iff]
      simpa using hnearer b hb
    · rcases (hf.isDescendant_iff hl).mp hdescendant with hdirect | hlast
      · exact .inr hdirect
      · exact .inl (Relation.TransGen.mono (fun _ _ h ↦ h.1) a l hlast)
  · intro l a leaf hl
    obtain ⟨found, hwalk⟩ := hf.exists_declarerWalk a (Room.start f) l
    refine ⟨found, ⟨hwalk, ?_⟩, ?_⟩
    · rw [isDescendant, hf.isDeclaredBelow_eq hl hwalk]
    · rintro other ⟨hother, -⟩
      rw [← hf.isDeclaredBelow_eq hl hother, hf.isDeclaredBelow_eq hl hwalk]

section Nested

def root : Descriptor := moduleNode "/repo/pom.xml" "root" ["services"]

def services : Descriptor := moduleNode "/repo/services/pom.xml" "services" ["orders"]

def orders : Descriptor :=
  { moduleNode "/repo/services/orders/pom.xml" "orders" [] with
    parent := some ⟨.bare "root", none⟩ }

/-- A leaf whose parent does not declare it, but declares the aggregator that does. -/
def nested : Forest := empty.registerAll [root, services, orders]

theorem nested_eq : nested = [root, services, orders].foldl Forest.extend empty :=
  registerAll_of_new (by decide +kernel) fun d _ ↦ empty_byKey d.descriptorKey

theorem nested_owner :
    nested.Reachable ∧ nested.nodes[2]? = some orders ∧
      nested.lineage orders = .ok ⟨some 0, [0]⟩ ∧ ¬ nested.DeclaresArtifact 0 orders.key ∧
      Relation.TransGen nested.DeclaresNode 0 2 := by
  have hreachable : nested.Reachable := Reachable.empty.registerAll _
  have horders : nested.nodes[2]? = some orders := by
    rw [nested_eq]
    rfl
  have hlast : nested.DeclaresLast 0 1 ∧ nested.DeclaresLast 1 2 := by
    rw [nested_eq]
    decide +kernel
  have hdirect : ¬ nested.DeclaresArtifact 0 orders.key := by
    rw [nested_eq]
    decide +kernel
  have hchain : nested.parentChain orders = .ok [0] := by
    rw [nested_eq]
    rfl
  have hroot : nested.nodes[0]? = some root := by
    rw [nested_eq]
    rfl
  have howns : nested.owns orders 0 = true := by
    refine owns_iff.mpr ⟨⟨root, hroot, by decide⟩, ?_⟩
    exact (hreachable.isDescendant_iff horders).mpr (.inr (.tail (.single hlast.1) hlast.2))
  have hlineage : nested.lineage orders = .ok ⟨some 0, [0]⟩ :=
    lineage_eq_ok_iff.mpr ⟨hchain, by simp [howns]⟩
  obtain ⟨-, -, -, hdeclares⟩ :=
    (lineage_owner_nearest hreachable).1 2 0 orders [0] horders hlineage
  exact ⟨hreachable, horders, hlineage, hdirect, hdeclares.resolve_right hdirect⟩

end Nested

end Forest

end Reactor
