import Mathlib.Order.Bounds.Basic
import Reactor.Proofs.Coordinate
import Reactor.Proofs.Registration

namespace Reactor

namespace Forest

def registerAll (f : Forest) (ds : List Descriptor) : Forest :=
  ds.foldl (fun f d ↦ (f.register d).1) f

/-- The number stands for the descriptor, and leads to it from any spelling of its path. -/
structure Denotes (f : Forest) (id : NodeId) (e : Descriptor) : Prop where
  node : f.nodes[id]? = some e
  registration : f.registration id = if e.isAggregator then .aggregator id else .leaf id
  again : ∀ d : Descriptor, d.descriptorKey = e.descriptorKey → f.register d = (f, id)

def Declares (f : Forest) (a : NodeId) (key : DescriptorKey) : Prop :=
  ∃ d, f.nodes[a]? = some d ∧ ∃ m ∈ d.modules, moduleDescriptorKey d.directory m = key

variable {f : Forest}

theorem lt_size_of_node {id : NodeId} {d : Descriptor} (h : f.nodes[id]? = some d) :
    id < f.size :=
  (Array.getElem?_eq_some_iff.mp h).choose

theorem size_node : f.nodes[f.size]? = none := Array.getElem?_size

@[simp] theorem empty_node (id : NodeId) : empty.nodes[id]? = none := rfl

@[simp] theorem empty_byKey (key : DescriptorKey) : empty.byKey[key]? = none :=
  Std.HashMap.getElem?_empty

@[simp] theorem empty_declared (key : DescriptorKey) : empty.declared[key]? = none :=
  Std.HashMap.getElem?_empty

@[simp] theorem not_empty_declares (a : NodeId) (key : DescriptorKey) :
    ¬ empty.Declares a key := by
  simp [Declares]

theorem declares_iff {a : NodeId} {key : DescriptorKey} :
    f.Declares a key ↔ ∃ d, f.nodes[a]? = some d ∧ key ∈ d.moduleKeys := by
  simp only [Declares, Descriptor.moduleKeys, List.mem_map]

section Extend

variable {d : Descriptor} {key : DescriptorKey}

theorem extend_node_of_ne {id : NodeId} (h : id ≠ f.size) :
    (f.extend d).nodes[id]? = f.nodes[id]? := by
  rw [extend_nodes, if_neg h]

@[simp] theorem extend_node_size : (f.extend d).nodes[f.size]? = some d := by
  rw [extend_nodes, if_pos rfl]

theorem extend_node_of_node {id : NodeId} {e : Descriptor} (h : f.nodes[id]? = some e) :
    (f.extend d).nodes[id]? = some e := by
  rw [extend_node_of_ne (Nat.ne_of_lt (lt_size_of_node h)), h]

theorem extend_byKey : (f.extend d).byKey[key]? =
    if d.descriptorKey = key then some f.size else f.byKey[key]? := by
  rw [extend, Std.HashMap.getElem?_insert]
  simp only [beq_iff_eq]

theorem getElem?_foldl_insert (keys : List DescriptorKey) (id : NodeId)
    (m : Std.HashMap DescriptorKey NodeId) :
    (keys.foldl (fun m k ↦ m.insert k id) m)[key]? = if key ∈ keys then some id else m[key]? := by
  induction keys generalizing m with
  | nil => simp
  | cons k keys ih =>
    rw [List.foldl_cons, ih, Std.HashMap.getElem?_insert]
    by_cases hkeys : key ∈ keys
    · simp [hkeys]
    · by_cases hk : k = key
      · simp [hk]
      · simp [hkeys, hk, Ne.symm hk]

theorem extend_declared : (f.extend d).declared[key]? =
    if key ∈ d.moduleKeys then some f.size else f.declared[key]? :=
  getElem?_foldl_insert d.moduleKeys f.size f.declared

theorem extend_declares_of_ne {a : NodeId} (h : a ≠ f.size) :
    (f.extend d).Declares a key ↔ f.Declares a key := by
  rw [Declares, extend_node_of_ne h, Declares]

theorem extend_declares_size : (f.extend d).Declares f.size key ↔ key ∈ d.moduleKeys := by
  simp [declares_iff]

end Extend

theorem Declares.lt_size {a : NodeId} {key : DescriptorKey} (h : f.Declares a key) :
    a < f.size := by
  obtain ⟨d, hd, -⟩ := h
  exact lt_size_of_node hd

theorem Reachable.byKey_eq_some_iff (h : f.Reachable) : ∀ (key : DescriptorKey) (id : NodeId),
    f.byKey[key]? = some id ↔ ∃ d, f.nodes[id]? = some d ∧ d.descriptorKey = key := by
  apply h.induct (P := fun f ↦ ∀ (key : DescriptorKey) (id : NodeId),
    f.byKey[key]? = some id ↔ ∃ d, f.nodes[id]? = some d ∧ d.descriptorKey = key)
  · simp
  · intro f d hnew ih key id
    rw [extend_byKey]
    by_cases hid : id = f.size
    · subst hid
      have hold : f.byKey[key]? ≠ some f.size := by
        intro hk
        obtain ⟨e, he, -⟩ := (ih _ _).mp hk
        simp [size_node] at he
      by_cases hk : d.descriptorKey = key <;> simp [hk, hold]
    · rw [extend_node_of_ne hid, ← ih]
      by_cases hk : d.descriptorKey = key
      · subst hk
        simp [hnew, Ne.symm hid]
      · simp [hk]

theorem Reachable.byKey_size (h : f.Reachable) : f.byKey.size = f.size := by
  apply h.induct (P := fun f ↦ f.byKey.size = f.size)
  · rfl
  · intro f d hnew ih
    have hmem : d.descriptorKey ∉ f.byKey := by
      rw [Std.HashMap.mem_iff_isSome_getElem?, hnew]
      simp
    rw [extend_size, ← ih, extend, Std.HashMap.size_insert, if_neg hmem]

theorem Reachable.eq_of_descriptorKey_eq (h : f.Reachable) {i j : NodeId} {d e : Descriptor}
    (hd : f.nodes[i]? = some d) (he : f.nodes[j]? = some e)
    (hkey : d.descriptorKey = e.descriptorKey) : i = j := by
  have hi : f.byKey[e.descriptorKey]? = some i := (h.byKey_eq_some_iff _ _).mpr ⟨d, hd, hkey⟩
  have hj : f.byKey[e.descriptorKey]? = some j := (h.byKey_eq_some_iff _ _).mpr ⟨e, he, rfl⟩
  exact Option.some.inj (hi.symm.trans hj)

theorem Reachable.declared_eq_none_iff (h : f.Reachable) : ∀ key : DescriptorKey,
    f.declared[key]? = none ↔ ∀ a, ¬ f.Declares a key := by
  apply h.induct (P := fun f ↦ ∀ key : DescriptorKey,
    f.declared[key]? = none ↔ ∀ a, ¬ f.Declares a key)
  · simp
  · intro f d _ ih key
    rw [extend_declared]
    by_cases hk : key ∈ d.moduleKeys
    · rw [if_pos hk]
      exact iff_of_false nofun fun hall ↦ hall f.size (extend_declares_size.mpr hk)
    · rw [if_neg hk, ih]
      apply forall_congr'
      intro a
      by_cases ha : a = f.size
      · subst ha
        exact iff_of_true (fun hold ↦ Nat.lt_irrefl _ hold.lt_size) (mt extend_declares_size.mp hk)
      · rw [extend_declares_of_ne ha]

/-- Of several nodes with modules that lead to a key the index names the last one. -/
theorem Reachable.declared_eq_some_iff (h : f.Reachable) : ∀ (key : DescriptorKey) (a : NodeId),
    f.declared[key]? = some a ↔ IsGreatest {b | f.Declares b key} a := by
  apply h.induct (P := fun f ↦ ∀ (key : DescriptorKey) (a : NodeId),
    f.declared[key]? = some a ↔ IsGreatest {b | f.Declares b key} a)
  · simp [IsGreatest]
  · intro f d _ ih key a
    rw [extend_declared]
    by_cases hk : key ∈ d.moduleKeys
    · -- the new node is the greatest of all
      have hgreatest : IsGreatest {b | (f.extend d).Declares b key} f.size := by
        refine ⟨extend_declares_size.mpr hk, ?_⟩
        intro b hb
        have hlt := Declares.lt_size hb
        rw [extend_size] at hlt
        exact Nat.le_of_lt_succ hlt
      rw [if_pos hk, Option.some_inj]
      exact ⟨fun ha ↦ ha ▸ hgreatest, fun ha ↦ hgreatest.unique ha⟩
    · have hsame : {b | (f.extend d).Declares b key} = {b | f.Declares b key} := by
        ext b
        by_cases hb : b = f.size
        · subst hb
          exact iff_of_false (mt extend_declares_size.mp hk)
            fun hold ↦ Nat.lt_irrefl _ (Declares.lt_size hold)
        · exact extend_declares_of_ne hb
      rw [if_neg hk, ih, hsame]

theorem Reachable.registerAll (h : f.Reachable) (ds : List Descriptor) :
    (f.registerAll ds).Reachable := by
  induction ds generalizing f with
  | nil => exact h
  | cons d ds ih => exact ih (.register d h)

theorem registerAll_of_new {ds : List Descriptor} (hnodup : (ds.map Descriptor.descriptorKey).Nodup)
    (hnew : ∀ d ∈ ds, f.byKey[d.descriptorKey]? = none) :
    f.registerAll ds = ds.foldl Forest.extend f := by
  induction ds generalizing f with
  | nil => rfl
  | cons d ds ih =>
    obtain ⟨hd, hnodup'⟩ := List.nodup_cons.mp hnodup
    obtain ⟨hdnew, hrest⟩ := List.forall_mem_cons.mp hnew
    have hnew' : ∀ e ∈ ds, (f.extend d).byKey[e.descriptorKey]? = none := by
      intro e he
      have hne : d.descriptorKey ≠ e.descriptorKey := by
        intro heq
        exact hd (heq ▸ List.mem_map_of_mem he)
      rw [extend_byKey, if_neg hne, hrest e he]
    rw [List.foldl_cons, ← ih hnodup' hnew', Forest.registerAll, List.foldl_cons,
      register_of_new hdnew]
    rfl

section Later

variable {id : NodeId} {e : Descriptor}

theorem register_node_of_node (h : f.nodes[id]? = some e) (d : Descriptor) :
    (f.register d).1.nodes[id]? = some e := by
  cases hk : f.byKey[d.descriptorKey]? with
  | some known => rwa [register_of_known hk]
  | none =>
    rw [register_of_new hk]
    exact extend_node_of_node h

theorem registerAll_node_of_node (h : f.nodes[id]? = some e) (ds : List Descriptor) :
    (f.registerAll ds).nodes[id]? = some e := by
  induction ds generalizing f with
  | nil => exact h
  | cons d ds ih => exact ih (register_node_of_node h d)

theorem mem_register {d : Descriptor} (h : e ∈ (f.register d).1.nodes) : e ∈ f.nodes ∨ e = d := by
  cases hk : f.byKey[d.descriptorKey]? with
  | some known =>
    rw [register_of_known hk] at h
    exact .inl h
  | none =>
    rw [register_of_new hk] at h
    exact Array.mem_push.mp h

theorem mem_registerAll {ds : List Descriptor} (h : e ∈ (f.registerAll ds).nodes) :
    e ∈ f.nodes ∨ e ∈ ds := by
  induction ds generalizing f with
  | nil => exact .inl h
  | cons d ds ih =>
    rcases ih h with hnode | hds
    · rcases mem_register hnode with hold | rfl
      · exact .inl hold
      · exact .inr List.mem_cons_self
    · exact .inr (List.mem_cons_of_mem d hds)

theorem Reachable.node_register (h : f.Reachable) (d : Descriptor) :
    ∃ e, (f.register d).1.nodes[(f.register d).2]? = some e ∧
      e.descriptorKey = d.descriptorKey := by
  cases hk : f.byKey[d.descriptorKey]? with
  | some known =>
    rw [register_of_known hk]
    exact (h.byKey_eq_some_iff _ _).mp hk
  | none =>
    rw [register_of_new hk]
    exact ⟨d, extend_node_size, rfl⟩

theorem Reachable.node_registerAll (h : f.Reachable) (before after : List Descriptor)
    (d : Descriptor) :
    ∃ e, (f.registerAll (before ++ d :: after)).nodes[((f.registerAll before).register d).2]? =
      some e ∧ e.descriptorKey = d.descriptorKey := by
  obtain ⟨e, hnode, hkey⟩ := (h.registerAll before).node_register d
  have hall : f.registerAll (before ++ d :: after) =
      ((f.registerAll before).register d).1.registerAll after := List.foldl_append
  refine ⟨e, ?_, hkey⟩
  rw [hall]
  exact registerAll_node_of_node hnode after

theorem registration_of_node (h : f.nodes[id]? = some e) :
    f.registration id = if e.isAggregator then .aggregator id else .leaf id := by
  rw [registration, h]
  rfl

theorem Reachable.register_of_node (h : f.Reachable) {d : Descriptor}
    (hnode : f.nodes[id]? = some e) (hkey : e.descriptorKey = d.descriptorKey) :
    f.register d = (f, id) :=
  register_of_known ((h.byKey_eq_some_iff _ _).mpr ⟨e, hnode, hkey⟩)

theorem Reachable.denotes (h : f.Reachable) (hnode : f.nodes[id]? = some e) : f.Denotes id e where
  node := hnode
  registration := registration_of_node hnode
  again _ hkey := h.register_of_node hnode hkey.symm

theorem Reachable.denotes_registerAll (h : f.Reachable) (hnode : f.nodes[id]? = some e)
    (later : List Descriptor) : (f.registerAll later).Denotes id e :=
  (h.registerAll later).denotes (registerAll_node_of_node hnode later)

theorem register_of_unknown {d : Descriptor} (h : f.idOf? d.path = none) :
    (f.register d).2 = f.size ∧ (f.register d).1.nodes = f.nodes.push d := by
  rw [register_of_new h]
  exact ⟨rfl, rfl⟩

end Later

section NodeOf

def nodeOf? (f : Forest) (key : DescriptorKey) : Option Descriptor :=
  f.byKey[key]?.bind fun id ↦ f.nodes[id]?

variable {key : DescriptorKey}

theorem nodeOf?_of_byKey {id : NodeId} (h : f.byKey[key]? = some id) :
    f.nodeOf? key = f.nodes[id]? := by
  rw [nodeOf?, h, Option.bind_some]

theorem nodeOf?_of_unknown (h : f.byKey[key]? = none) : f.nodeOf? key = none := by
  rw [nodeOf?, h, Option.bind_none]

theorem Reachable.nodeOf?_extend (h : f.Reachable) (d : Descriptor) :
    (f.extend d).nodeOf? key = if d.descriptorKey = key then some d else f.nodeOf? key := by
  have hbyKey : (f.extend d).byKey[key]? =
      if d.descriptorKey = key then some f.size else f.byKey[key]? := extend_byKey
  split at hbyKey
  · next hkey => rw [if_pos hkey, nodeOf?_of_byKey hbyKey, extend_node_size]
  · next hkey =>
    rw [if_neg hkey]
    cases hid : f.byKey[key]? with
    | none => rw [nodeOf?_of_unknown hid, nodeOf?_of_unknown (hbyKey.trans hid)]
    | some id =>
      obtain ⟨e, hnode, -⟩ := (h.byKey_eq_some_iff _ _).mp hid
      rw [nodeOf?_of_byKey hid, nodeOf?_of_byKey (hbyKey.trans hid), hnode,
        extend_node_of_node hnode]

theorem Reachable.nodeOf?_register (h : f.Reachable) (d : Descriptor) :
    (f.register d).1.nodeOf? key =
      (f.nodeOf? key).or (if d.descriptorKey = key then some d else none) := by
  cases hk : f.byKey[d.descriptorKey]? with
  | some known =>
    rw [register_of_known hk]
    split
    · next hkey =>
      obtain ⟨e, hnode, -⟩ := (h.byKey_eq_some_iff _ _).mp hk
      rw [← hkey, nodeOf?_of_byKey hk, hnode, Option.some_or]
    · rw [Option.or_none]
  | none =>
    rw [register_of_new hk, h.nodeOf?_extend]
    split
    · next hkey => rw [← hkey, nodeOf?_of_unknown hk, Option.none_or]
    · rw [Option.or_none]

theorem Reachable.nodeOf?_registerAll (h : f.Reachable) (ds : List Descriptor) :
    (f.registerAll ds).nodeOf? key =
      (f.nodeOf? key).or (ds.find? (·.descriptorKey = key)) := by
  induction ds generalizing f with
  | nil => rw [List.find?_nil, Option.or_none]; rfl
  | cons d ds ih =>
    have hstep : (f.registerAll (d :: ds)).nodeOf? key =
        ((f.register d).1.nodeOf? key).or (ds.find? (·.descriptorKey = key)) := ih (.register d h)
    rw [hstep, h.nodeOf?_register, Option.or_assoc]
    by_cases hkey : d.descriptorKey = key <;> simp [hkey]

end NodeOf

/-- After any registrations the four parts of a forest agree, the node of a key is the first
descriptor that was registered with it, and the number that a registration returns denotes that node
from then on. -/
theorem registerAll_represents (ds : List Descriptor) :
    let f := empty.registerAll ds
    ((∀ (key : DescriptorKey) (id : NodeId), f.byKey[key]? = some id ↔
        ∃ d, f.nodes[id]? = some d ∧ d.descriptorKey = key) ∧
      f.byKey.size = f.size ∧
      ∀ (i j : NodeId) (d e : Descriptor), f.nodes[i]? = some d → f.nodes[j]? = some e →
        d.descriptorKey = e.descriptorKey → i = j) ∧
    f.aggregators.toList =
      (List.range f.size).filter (fun id ↦ f.nodes[id]?.any Descriptor.isAggregator) ∧
    (∀ path : Path, (∀ a, f.declaringAggregator? path = some a ↔
        IsGreatest {b | f.Declares b path.descriptorKey} a) ∧
      (f.declaringAggregator? path = none ↔ ∀ a, ¬ f.Declares a path.descriptorKey)) ∧
    (∀ (id : NodeId) (e : Descriptor), f.nodes[id]? = some e →
      ∀ later : List Descriptor, (f.registerAll later).Denotes id e) ∧
    (∀ key : DescriptorKey, f.nodeOf? key = ds.find? (·.descriptorKey = key)) ∧
    ∀ d : Descriptor, ∃ e : Descriptor, e.descriptorKey = d.descriptorKey ∧
      (f.idOf? d.path = none →
        e = d ∧ (f.register d).2 = f.size ∧ (f.register d).1.nodes = f.nodes.push d) ∧
      ∀ later : List Descriptor,
        ((f.register d).1.registerAll later).Denotes (f.register d).2 e := by
  intro f
  have hf : f.Reachable := Reachable.empty.registerAll ds
  refine ⟨⟨hf.byKey_eq_some_iff, hf.byKey_size, ?_⟩, hf.aggregators_eq, ?_, ?_, ?_, ?_⟩
  · intro i j d e hd he hkey
    exact hf.eq_of_descriptorKey_eq hd he hkey
  · intro path
    exact ⟨hf.declared_eq_some_iff _, hf.declared_eq_none_iff _⟩
  · intro id e hnode later
    exact hf.denotes_registerAll hnode later
  · intro key
    have hempty : empty.nodeOf? key = none := nodeOf?_of_unknown (empty_byKey key)
    rw [Reachable.empty.nodeOf?_registerAll ds, hempty, Option.none_or]
  · intro d
    obtain ⟨e, hnode, hkey⟩ := hf.node_register d
    refine ⟨e, hkey, ?_, (Reachable.register d hf).denotes_registerAll hnode⟩
    intro hunknown
    obtain ⟨hid, hnodes⟩ := register_of_unknown hunknown
    rw [hid, hnodes] at hnode
    have he : e = d := (Option.some.inj (Array.getElem?_push_size.symm.trans hnode)).symm
    exact ⟨he, hid, hnodes⟩

section Respelled

def moduleNode (path artifact : String) (modules : List String) : Descriptor :=
  { Descriptor.bare artifact with path := ⟨path⟩, modules }

def depot : Descriptor := moduleNode "/repo/depot/pom.xml" "depot" ["../shared"]

def store : Descriptor := moduleNode "/repo/store/pom.xml" "store" ["../shared"]

def respelledDepot : Descriptor := moduleNode "/repo/store/../depot/./POM.xml" "other" []

def shared : Descriptor := moduleNode "/repo/shared/pom.xml" "shared" []

def twoStocks : Forest := empty.registerAll [depot, store]

theorem twoStocks_eq : twoStocks = [depot, store].foldl Forest.extend empty :=
  registerAll_of_new (by decide +kernel) fun d _ ↦ empty_byKey d.descriptorKey

theorem twoStocks_nodes : twoStocks.nodes = #[depot, store] := by
  rw [twoStocks_eq]
  rfl

theorem twoStocks_size : twoStocks.size = 2 := by
  rw [size, twoStocks_nodes]
  rfl

theorem isGreatest_declares_shared :
    IsGreatest {b | twoStocks.Declares b shared.path.descriptorKey} 1 := by
  refine ⟨declares_iff.mpr ⟨store, ?_, by decide +kernel⟩, ?_⟩
  · rw [twoStocks_nodes]
    rfl
  · intro b hb
    have hlt : b < twoStocks.size := hb.lt_size
    rw [twoStocks_size] at hlt
    exact Nat.le_of_lt_succ hlt

theorem shared_unknown : twoStocks.idOf? shared.path = none := by
  rw [idOf?, twoStocks_eq, List.foldl_cons, List.foldl_cons, List.foldl_nil, extend_byKey,
    if_neg (by decide +kernel), extend_byKey, if_neg (by decide +kernel)]
  exact empty_byKey _

/-- Of two aggregators that declare one module the later one counts. The respelled path leads to the
first of them, now and after further registrations, and a new descriptor gets the next number. -/
theorem respelled_represented :
    respelledDepot.path ≠ depot.path ∧ respelledDepot.descriptorKey = depot.descriptorKey ∧
    twoStocks.aggregators.toList = [0, 1] ∧
    twoStocks.declaringAggregator? shared.path = some 1 ∧
    twoStocks.register respelledDepot = (twoStocks, 0) ∧
    twoStocks.registration 0 = .aggregator 0 ∧
    (twoStocks.register shared).2 = 2 ∧
    (∀ later : List Descriptor,
      ((twoStocks.register shared).1.registerAll later).Denotes 2 shared) ∧
    ∀ later : List Descriptor, (twoStocks.registerAll later).Denotes 0 depot := by
  obtain ⟨-, haggregators, hdeclaring, hdenotes, -, hregister⟩ :=
    registerAll_represents [depot, store]
  rw [← twoStocks] at haggregators hdeclaring hdenotes hregister
  have hkey : respelledDepot.descriptorKey = depot.descriptorKey := by decide +kernel
  have hdepot : ∀ later, (twoStocks.registerAll later).Denotes 0 depot := by
    apply hdenotes
    rw [twoStocks_nodes]
    rfl
  obtain ⟨e, -, hnew, hshared⟩ := hregister shared
  obtain ⟨rfl, hid, -⟩ := hnew shared_unknown
  rw [hid, twoStocks_size] at hshared
  have hlast : twoStocks.declaringAggregator? shared.path = some 1 :=
    ((hdeclaring shared.path).1 1).mpr isGreatest_declares_shared
  refine ⟨by decide +kernel, hkey, ?_, hlast, (hdepot []).again respelledDepot hkey,
    (hdepot []).registration, hid.trans twoStocks_size, hshared, hdepot⟩
  rw [haggregators, twoStocks_size, twoStocks_nodes]
  decide +kernel

end Respelled

end Forest

end Reactor
