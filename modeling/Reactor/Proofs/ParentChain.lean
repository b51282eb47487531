import Mathlib.Data.List.Nodup
import Mathlib.Data.List.Perm.Subperm
import Reactor.Proofs.Coordinate
import Reactor.Proofs.Registration

namespace Reactor

namespace Forest

def parentOf? (f : Forest) (d : Descriptor) : Option (NodeId × Descriptor) :=
  d.ownParent?.bind f.find?

/-- A walk from a descriptor up to `top`, with the parents it passes, nearest first. -/
inductive Climb (f : Forest) : Descriptor → List (NodeId × Descriptor) → Descriptor → Prop
  | here (d : Descriptor) : Climb f d [] d
  | up {d p top : Descriptor} {id : NodeId} {path : List (NodeId × Descriptor)} :
      f.parentOf? d = some (id, p) → Climb f p path top → Climb f d ((id, p) :: path) top

def keysOf (path : List (NodeId × Descriptor)) : List ArtifactKey := path.map (·.2.key)

/-- A climb that stops before a key repeats, by the numbers of its parents. -/
def Stops (f : Forest) (d : Descriptor) (chain : List NodeId) : Prop :=
  ∃ path top, f.Climb d path top ∧ f.parentOf? top = none ∧ (d.key :: keysOf path).Nodup ∧
    chain = path.map Prod.fst

/-- A climb whose next parent is the first to repeat a key, by that key. -/
def Repeats (f : Forest) (d : Descriptor) (key : ArtifactKey) : Prop :=
  ∃ path top id p, f.Climb d path top ∧ f.parentOf? top = some (id, p) ∧
    (d.key :: keysOf path).Nodup ∧ p.key ∈ d.key :: keysOf path ∧ key = p.key

def keys (f : Forest) : List ArtifactKey := f.nodes.toList.map Descriptor.key

variable {f : Forest}

theorem key_mem_keys {id : NodeId} {d : Descriptor} (h : f.nodes[id]? = some d) :
    d.key ∈ f.keys := by
  apply List.mem_map_of_mem
  rw [Array.mem_toList_iff]
  exact Array.mem_of_getElem? h

theorem ownParent?_eq_some_iff {d : Descriptor} {key : ArtifactKey} :
    d.ownParent? = some key ↔
      (∃ c, d.parentCoordinate? = some c ∧ c.key = key) ∧ key ≠ frameworkParent := by
  simp [Descriptor.ownParent?, Option.filter_eq_some_iff]

theorem parentOf?_spec {d p : Descriptor} {id : NodeId} (h : f.parentOf? d = some (id, p)) :
    f.nodes[id]? = some p ∧ d.ownParent? = some p.key := by
  obtain ⟨key, hkey, hfind⟩ := Option.bind_eq_some_iff.mp h
  obtain ⟨hp, rfl⟩ := find?_spec hfind
  exact ⟨hp, hkey⟩

theorem Reachable.parentOf?_eq_none_iff (hf : f.Reachable) (d : Descriptor) :
    f.parentOf? d = none ↔ ∀ c, d.parentCoordinate? = some c →
      c.key = frameworkParent ∨ ∀ (id : NodeId) (p : Descriptor), f.nodes[id]? = some p →
        p.key ≠ c.key := by
  rw [parentOf?, Option.bind_eq_none_iff]
  constructor
  · intro h c hc
    by_cases hframework : c.key = frameworkParent
    · exact .inl hframework
    · right
      apply hf.find?_eq_none_iff.mp
      exact h c.key (ownParent?_eq_some_iff.mpr ⟨⟨c, hc, rfl⟩, hframework⟩)
  · intro h key hkey
    obtain ⟨⟨c, hc, rfl⟩, hframework⟩ := ownParent?_eq_some_iff.mp hkey
    exact hf.find?_eq_none_iff.mpr ((h c hc).resolve_left hframework)

section Walk

variable {start d p : Descriptor} {id : NodeId} {remaining : Nat} {visited : List ArtifactKey}

theorem parentsFrom_of_stop (h : f.parentOf? d = none) :
    f.parentsFrom start remaining visited d.ownParent? = .ok [] := by
  cases hp : d.ownParent? with
  | none => rw [parentsFrom]
  | some key =>
    have hfind : f.find? key = none := by rwa [parentOf?, hp] at h
    rw [parentsFrom, hfind]

theorem parentsFrom_of_mem (h : f.parentOf? d = some (id, p)) (hp : p.key ∈ visited) :
    f.parentsFrom start remaining visited d.ownParent? = .error (.cyclic start.path p.key) := by
  obtain ⟨key, hkey, hfind⟩ := Option.bind_eq_some_iff.mp h
  rw [hkey, parentsFrom, hfind]
  cases remaining with
  | zero => rfl
  | succ remaining => exact if_pos hp

theorem parentsFrom_of_notMem (h : f.parentOf? d = some (id, p)) (hp : p.key ∉ visited) :
    f.parentsFrom start (remaining + 1) visited d.ownParent? =
      (f.parentsFrom start remaining (p.key :: visited) p.ownParent?).map (id :: ·) := by
  obtain ⟨key, hkey, hfind⟩ := Option.bind_eq_some_iff.mp h
  rw [hkey, parentsFrom, hfind]
  exact if_neg hp

end Walk

namespace Climb

variable {d top : Descriptor} {path : List (NodeId × Descriptor)}

theorem keysOf_subset (h : f.Climb d path top) : keysOf path ⊆ f.keys := by
  induction h with
  | here => exact List.nil_subset _
  | up hp _ ih => exact List.cons_subset.mpr ⟨key_mem_keys (parentOf?_spec hp).1, ih⟩

theorem snoc {p : Descriptor} {id : NodeId} (h : f.Climb d path top)
    (hp : f.parentOf? top = some (id, p)) : f.Climb d (path ++ [(id, p)]) p := by
  induction h with
  | here => exact .up hp (.here _)
  | up hq _ ih => exact .up hq (ih hp)

/-- All keys of a climb are keys of nodes, so without a repetition it is shorter than the forest. -/
theorem length_lt (h : f.Climb d path top) (hd : d.key ∈ f.keys)
    (hnodup : (d.key :: keysOf path).Nodup) : path.length < f.size := by
  have hle := (hnodup.subperm (List.cons_subset.mpr ⟨hd, h.keysOf_subset⟩)).length_le
  rwa [List.length_cons, keysOf, List.length_map, keys, List.length_map,
    Array.length_toList] at hle

end Climb

theorem stops_or_repeats_of_climb {d : Descriptor} (hd : d.key ∈ f.keys) (room : Nat)
    {path : List (NodeId × Descriptor)} {top : Descriptor} (h : f.Climb d path top)
    (hnodup : (d.key :: keysOf path).Nodup) (hroom : f.size ≤ path.length + room) :
    (∃ chain, f.Stops d chain) ∨ ∃ key, f.Repeats d key := by
  induction room generalizing path top with
  | zero =>
    -- the climb would be as long as the forest
    have hlt := h.length_lt hd hnodup
    omega
  | succ room ih =>
    cases hp : f.parentOf? top with
    | none => exact .inl ⟨_, path, top, h, hp, hnodup, rfl⟩
    | some next =>
      obtain ⟨id, p⟩ := next
      by_cases hmem : p.key ∈ d.key :: keysOf path
      · exact .inr ⟨_, path, top, id, p, h, hp, hnodup, hmem, rfl⟩
      · have hnodup' : (d.key :: keysOf (path ++ [(id, p)])).Nodup := by
          rw [keysOf, List.map_append, ← List.cons_append]
          exact hnodup.append (List.nodup_singleton _) (by simpa using hmem)
        refine ih (h.snoc hp) hnodup' ?_
        rw [List.length_append, List.length_singleton]
        omega

theorem stops_or_repeats {d : Descriptor} (hd : d.key ∈ f.keys) :
    (∃ chain, f.Stops d chain) ∨ ∃ key, f.Repeats d key :=
  stops_or_repeats_of_climb hd f.size (.here d) (List.nodup_singleton _) (Nat.le_add_left ..)

section Outcome

variable {start d top : Descriptor} {path : List (NodeId × Descriptor)} {remaining : Nat}
  {visited : List ArtifactKey}

theorem parentsFrom_ok (h : f.Climb d path top) (hstop : f.parentOf? top = none)
    (hnodup : (visited ++ keysOf path).Nodup) (hlength : path.length ≤ remaining) :
    f.parentsFrom start remaining visited d.ownParent? = .ok (path.map Prod.fst) := by
  induction h generalizing visited remaining with
  | here => exact parentsFrom_of_stop hstop
  | @up d p top id path hp _ ih =>
    have hnodup' : (p.key :: visited ++ keysOf path).Nodup := List.nodup_middle.mp hnodup
    have hnew : p.key ∉ visited := by
      intro hv
      exact (List.nodup_cons.mp hnodup').1 (List.mem_append_left _ hv)
    obtain ⟨remaining, rfl⟩ := Nat.exists_eq_add_one_of_ne_zero (Nat.ne_zero_of_lt hlength)
    rw [parentsFrom_of_notMem hp hnew, ih hstop hnodup' (Nat.le_of_succ_le_succ hlength)]
    rfl

theorem parentsFrom_error {p : Descriptor} {id : NodeId} (h : f.Climb d path top)
    (hp : f.parentOf? top = some (id, p)) (hnodup : (visited ++ keysOf path).Nodup)
    (hmem : p.key ∈ visited ++ keysOf path) (hlength : path.length ≤ remaining) :
    f.parentsFrom start remaining visited d.ownParent? = .error (.cyclic start.path p.key) := by
  induction h generalizing visited remaining with
  | here =>
    rw [keysOf, List.map_nil, List.append_nil] at hmem
    exact parentsFrom_of_mem hp hmem
  | @up d q top id path hq _ ih =>
    have hnodup' : (q.key :: visited ++ keysOf path).Nodup := List.nodup_middle.mp hnodup
    have hmem' : p.key ∈ q.key :: visited ++ keysOf path := List.perm_middle.mem_iff.mp hmem
    have hnew : q.key ∉ visited := by
      intro hv
      exact (List.nodup_cons.mp hnodup').1 (List.mem_append_left _ hv)
    obtain ⟨remaining, rfl⟩ := Nat.exists_eq_add_one_of_ne_zero (Nat.ne_zero_of_lt hlength)
    rw [parentsFrom_of_notMem hq hnew, ih hp hnodup' hmem' (Nat.le_of_succ_le_succ hlength)]
    rfl

end Outcome

section ParentChain

variable {d : Descriptor}

theorem Stops.parentChain_eq {chain : List NodeId} (h : f.Stops d chain) (hd : d.key ∈ f.keys) :
    f.parentChain d = .ok chain := by
  obtain ⟨path, top, hclimb, hstop, hnodup, rfl⟩ := h
  exact parentsFrom_ok hclimb hstop hnodup (Nat.le_of_lt (hclimb.length_lt hd hnodup))

theorem Repeats.parentChain_eq {key : ArtifactKey} (h : f.Repeats d key) (hd : d.key ∈ f.keys) :
    f.parentChain d = .error (.cyclic d.path key) := by
  obtain ⟨path, top, id, p, hclimb, hp, hnodup, hmem, rfl⟩ := h
  exact parentsFrom_error hclimb hp hnodup hmem (Nat.le_of_lt (hclimb.length_lt hd hnodup))

theorem Stops.length_lt {chain : List NodeId} (h : f.Stops d chain) (hd : d.key ∈ f.keys) :
    chain.length < f.size := by
  obtain ⟨path, top, hclimb, -, hnodup, rfl⟩ := h
  rw [List.length_map]
  exact hclimb.length_lt hd hnodup

/-- The chain of a node lists the parents of a climb that stops before a key repeats, and there is
none exactly if a key repeats first, which is then reported. -/
theorem parentChain_exact (hf : f.Reachable) {n : NodeId} (hn : f.nodes[n]? = some d) :
    (∀ x, f.parentOf? x = none ↔ ∀ c, x.parentCoordinate? = some c →
      c.key = frameworkParent ∨ ∀ (id : NodeId) (p : Descriptor), f.nodes[id]? = some p →
        p.key ≠ c.key) ∧
    (∀ chain, f.parentChain d = .ok chain ↔ f.Stops d chain) ∧
    (∀ failure, f.parentChain d = .error failure ↔
      ∃ key, f.Repeats d key ∧ failure = .cyclic d.path key) ∧
    ∀ chain, f.parentChain d = .ok chain → chain.length < f.size := by
  have hd : d.key ∈ f.keys := key_mem_keys hn
  have hok : ∀ chain, f.parentChain d = .ok chain ↔ f.Stops d chain := by
    intro chain
    constructor
    · intro h
      obtain ⟨stopped, hstops⟩ | ⟨key, hrepeats⟩ := stops_or_repeats hd
      · rw [hstops.parentChain_eq hd] at h
        obtain rfl : stopped = chain := Except.ok.inj h
        exact hstops
      · rw [hrepeats.parentChain_eq hd] at h
        cases h
    · intro h
      exact h.parentChain_eq hd
  have herror : ∀ failure, f.parentChain d = .error failure ↔
      ∃ key, f.Repeats d key ∧ failure = .cyclic d.path key := by
    intro failure
    constructor
    · intro h
      obtain ⟨stopped, hstops⟩ | ⟨key, hrepeats⟩ := stops_or_repeats hd
      · rw [hstops.parentChain_eq hd] at h
        cases h
      · rw [hrepeats.parentChain_eq hd] at h
        exact ⟨key, hrepeats, (Except.error.inj h).symm⟩
    · rintro ⟨key, hrepeats, rfl⟩
      exact hrepeats.parentChain_eq hd
  refine ⟨hf.parentOf?_eq_none_iff, hok, herror, ?_⟩
  intro chain h
  exact ((hok chain).mp h).length_lt hd

end ParentChain

section Ring

def childOf (artifact parent : String) : Descriptor :=
  { Descriptor.bare artifact with parent := some ⟨.bare parent, none⟩ }

def ring : Forest := ((empty.register (childOf "a" "b")).1.register (childOf "b" "a")).1

theorem ring_eq : ring = (empty.extend (childOf "a" "b")).extend (childOf "b" "a") := by
  have hfirst : empty.byKey[(childOf "a" "b").descriptorKey]? = none := Std.HashMap.getElem?_empty
  have hne : (childOf "a" "b").descriptorKey ≠ (childOf "b" "a").descriptorKey := by
    decide +kernel
  have hsecond : (empty.extend (childOf "a" "b")).byKey[(childOf "b" "a").descriptorKey]? =
      none := by
    simp [extend, empty, hne]
  rw [ring, register_of_new hfirst, register_of_new hsecond]

theorem ring_parentChain :
    ring.Reachable ∧ ring.nodes[0]? = some (childOf "a" "b") ∧
      ring.Repeats (childOf "a" "b") ⟨"g", "a"⟩ ∧
      ring.parentChain (childOf "a" "b") = .error (.cyclic ⟨"a/pom.xml"⟩ ⟨"g", "a"⟩) := by
  have hreachable : ring.Reachable := .register _ (.register _ .empty)
  have hnode : ring.nodes[0]? = some (childOf "a" "b") := by
    rw [ring_eq]
    rfl
  have hup : ring.parentOf? (childOf "a" "b") = some (1, childOf "b" "a") := by
    rw [ring_eq]
    rfl
  have hback : ring.parentOf? (childOf "b" "a") = some (0, childOf "a" "b") := by
    rw [ring_eq]
    rfl
  have hrepeats : ring.Repeats (childOf "a" "b") ⟨"g", "a"⟩ :=
    ⟨_, _, _, _, .up hup (.here _), hback, by decide +kernel, by decide +kernel, rfl⟩
  refine ⟨hreachable, hnode, hrepeats, ?_⟩
  exact ((parentChain_exact hreachable hnode).2.2.1 _).mpr ⟨_, hrepeats, rfl⟩

end Ring

end Forest

end Reactor
