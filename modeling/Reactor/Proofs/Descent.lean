import Mathlib.Data.List.Nodup
import Mathlib.Data.List.Perm.Subperm
import Mathlib.Logic.Relation
import Reactor.Proofs.Coordinate
import Reactor.Proofs.Registry

namespace Reactor

namespace Forest

def DeclaresNode (f : Forest) (a b : NodeId) : Prop :=
  ∃ d, f.nodes[b]? = some d ∧ f.Declares a d.descriptorKey

def DeclaresArtifact (f : Forest) (a : NodeId) (key : ArtifactKey) : Prop :=
  ∃ (b : NodeId) (d : Descriptor), f.nodes[b]? = some d ∧ d.key = key ∧
    f.Declares a d.descriptorKey

/-- Of all nodes with an entry that leads to the node `b` the last one is `a`. -/
def DeclaresLast (f : Forest) (a b : NodeId) : Prop := IsGreatest {c | f.DeclaresNode c b} a

def declarerOf? (f : Forest) (b : NodeId) : Option NodeId :=
  f.nodes[b]?.bind fun d ↦ f.declaringAggregator? d.path

/-- A walk from declarer to declarer, with those met so far and with whether it ends at `a`. It also
ends where there is no declarer and at one that was met before. -/
inductive DeclarerWalk (f : Forest) (a : NodeId) : List NodeId → NodeId → Bool → Prop
  | undeclared {met : List NodeId} {b : NodeId} :
      f.declarerOf? b = none → DeclarerWalk f a met b false
  | found {met : List NodeId} {b : NodeId} :
      f.declarerOf? b = some a → DeclarerWalk f a met b true
  | again {met : List NodeId} {b c : NodeId} :
      f.declarerOf? b = some c → c ≠ a → c ∈ met → DeclarerWalk f a met b false
  | onward {met : List NodeId} {b c : NodeId} {found : Bool} :
      f.declarerOf? b = some c → c ≠ a → c ∉ met → DeclarerWalk f a (c :: met) c found →
      DeclarerWalk f a met b found

/-- The nodes that a walk has met, with how many more it can meet at least. -/
structure Room (f : Forest) (met : List NodeId) (room : Nat) : Prop where
  nodup : met.Nodup
  lt_size : ∀ b ∈ met, b < f.size
  le : f.size ≤ room + met.length

variable {f : Forest} {a b c : NodeId}

theorem DeclaresNode.left_lt_size (h : f.DeclaresNode a b) : a < f.size := by
  obtain ⟨d, -, h⟩ := h
  exact h.lt_size

instance (f : Forest) (a b : NodeId) : Decidable (f.DeclaresNode a b) :=
  decidable_of_iff (∃ d ∈ f.nodes[b]?, ∃ owner ∈ f.nodes[a]?, d.descriptorKey ∈ owner.moduleKeys)
    (by simp [DeclaresNode, declares_iff])

instance (f : Forest) (a : NodeId) (key : ArtifactKey) : Decidable (f.DeclaresArtifact a key) :=
  decidable_of_iff (∃ b < f.size, ∃ d ∈ f.nodes[b]?, d.key = key ∧ f.DeclaresNode a b) (by
    constructor
    · rintro ⟨b, -, d, hd, hkey, e, he, hdeclares⟩
      obtain rfl : d = e := Option.some.inj (Eq.trans (Eq.symm hd) he)
      exact ⟨b, d, hd, hkey, hdeclares⟩
    · rintro ⟨b, d, hd, hkey, hdeclares⟩
      exact ⟨b, lt_size_of_node hd, d, hd, hkey, d, hd, hdeclares⟩)

instance (f : Forest) (a b : NodeId) : Decidable (f.DeclaresLast a b) :=
  decidable_of_iff (f.DeclaresNode a b ∧ ∀ c < f.size, f.DeclaresNode c b → c ≤ a)
    (and_congr_right fun _ ↦ ⟨fun h c hc ↦ h c hc.left_lt_size hc, fun h _ _ hc ↦ h hc⟩)

theorem declaresNode_iff {d : Descriptor} (hb : f.nodes[b]? = some d) :
    f.DeclaresNode a b ↔ f.Declares a d.descriptorKey := by
  simp [DeclaresNode, hb]

theorem declarerOf?_of_node {d : Descriptor} (hb : f.nodes[b]? = some d) :
    f.declarerOf? b = f.declaringAggregator? d.path := by
  rw [declarerOf?, hb]
  rfl

theorem Reachable.declarerOf?_eq_some_iff (hf : f.Reachable) :
    f.declarerOf? b = some a ↔ f.DeclaresLast a b := by
  cases hb : f.nodes[b]? with
  | none => simp [declarerOf?, DeclaresLast, DeclaresNode, IsGreatest, hb]
  | some d =>
    simp only [DeclaresLast, declaresNode_iff hb]
    rw [declarerOf?_of_node hb]
    exact hf.declared_eq_some_iff _ _

theorem Reachable.lt_size_of_declarerOf? (hf : f.Reachable) (h : f.declarerOf? b = some a) :
    a < f.size :=
  (hf.declarerOf?_eq_some_iff.mp h).1.left_lt_size

theorem DeclaresLast.transGen_iff (h : f.DeclaresLast b c) :
    Relation.TransGen f.DeclaresLast a c ↔ a = b ∨ Relation.TransGen f.DeclaresLast a b := by
  rw [Relation.TransGen.tail'_iff]
  constructor
  · rintro ⟨d, hchain, hd⟩
    obtain rfl : d = b := hd.unique h
    exact (Relation.reflTransGen_iff_eq_or_transGen.mp hchain).imp_left Eq.symm
  · intro hchain
    exact ⟨b, Relation.reflTransGen_iff_eq_or_transGen.mpr (hchain.imp_left Eq.symm), h⟩

theorem not_transGen_of_undeclared (hf : f.Reachable) (h : f.declarerOf? c = none) :
    ¬ Relation.TransGen f.DeclaresLast a c := by
  rw [Relation.TransGen.tail'_iff]
  rintro ⟨b, -, hb⟩
  rw [hf.declarerOf?_eq_some_iff.mpr hb] at h
  cases h

namespace Room

variable {met : List NodeId} {room : Nat}

theorem start (f : Forest) : Room f [] f.size := ⟨List.nodup_nil, by simp, by simp⟩

theorem exists_succ (h : Room f met room) (hc : c < f.size) (hnew : c ∉ met) :
    ∃ less, room = less + 1 ∧ Room f (c :: met) less := by
  -- with no room left the nodes met would be more than there are
  have hnodup : (c :: met).Nodup := List.nodup_cons.mpr ⟨hnew, h.nodup⟩
  have hlt : ∀ b ∈ c :: met, b < f.size := List.forall_mem_cons.mpr ⟨hc, h.lt_size⟩
  have hlength : (c :: met).length ≤ (List.range f.size).length :=
    (hnodup.subperm fun b hb ↦ List.mem_range.mpr (hlt b hb)).length_le
  rw [List.length_range, List.length_cons] at hlength
  have hle := h.le
  refine ⟨room - 1, by omega, hnodup, hlt, ?_⟩
  rw [List.length_cons]
  omega

end Room

theorem Reachable.exists_declarerWalk (hf : f.Reachable) (a : NodeId) {met : List NodeId}
    {room : Nat} (hroom : f.Room met room) (b : NodeId) :
    ∃ found, f.DeclarerWalk a met b found := by
  induction room using Nat.strong_induction_on generalizing met b with
  | _ room ih =>
    cases hb : f.declarerOf? b with
    | none => exact ⟨_, .undeclared hb⟩
    | some c =>
      by_cases hc : c = a
      · exact ⟨_, .found (hc ▸ hb)⟩
      by_cases hmet : c ∈ met
      · exact ⟨_, .again hb hc hmet⟩
      · obtain ⟨less, rfl, hroom'⟩ := hroom.exists_succ (hf.lt_size_of_declarerOf? hb) hmet
        obtain ⟨found, hwalk⟩ := ih less (Nat.lt_succ_self less) hroom' c
        exact ⟨found, .onward hb hc hmet hwalk⟩

namespace DeclarerWalk

variable {met : List NodeId} {found : Bool}

theorem transGen (hf : f.Reachable) (h : f.DeclarerWalk a met b found) (hfound : found = true) :
    Relation.TransGen f.DeclaresLast a b := by
  induction h with
  | undeclared | again => cases hfound
  | found hb => exact .single (hf.declarerOf?_eq_some_iff.mp hb)
  | onward hb _ _ _ ih => exact (ih hfound).tail (hf.declarerOf?_eq_some_iff.mp hb)

theorem mem_of_transGen (hclosed : ∀ c ∈ met, ∃ d ∈ met, f.DeclaresLast d c)
    (h : Relation.TransGen f.DeclaresLast a b) (hb : b ∈ met) : a ∈ met := by
  induction h with
  | single hab =>
    obtain ⟨d, hd, hdb⟩ := hclosed _ hb
    exact hab.unique hdb ▸ hd
  | tail _ hcb ih =>
    obtain ⟨d, hd, hdb⟩ := hclosed _ hb
    exact ih (hcb.unique hdb ▸ hd)

/-- A walk in vain has seen all chains: from each node that it met it went on to the next. -/
theorem not_transGen (hf : f.Reachable) (h : f.DeclarerWalk a met b found)
    (hfound : found = false) (ha : a ∉ met)
    (hclosed : ∀ c ∈ met, c = b ∨ ∃ d ∈ met, f.DeclaresLast d c) :
    ¬ Relation.TransGen f.DeclaresLast a b := by
  induction h with
  | undeclared hb => exact not_transGen_of_undeclared hf hb
  | found => cases hfound
  | @again met b c hb hca hmet =>
    -- the nodes met now form a circle that all declarers stay in
    have hlast : f.DeclaresLast c b := hf.declarerOf?_eq_some_iff.mp hb
    have hclosed' : ∀ x ∈ met, ∃ d ∈ met, f.DeclaresLast d x := by
      intro x hx
      rcases hclosed x hx with rfl | hd
      · exact ⟨c, hmet, hlast⟩
      · exact hd
    intro hchain
    rcases hlast.transGen_iff.mp hchain with rfl | hchain
    · exact hca rfl
    · exact ha (mem_of_transGen hclosed' hchain hmet)
  | @onward met b c _ hb hca _ _ ih =>
    have hlast : f.DeclaresLast c b := hf.declarerOf?_eq_some_iff.mp hb
    have ha' : a ∉ c :: met := by
      rw [List.mem_cons, not_or]
      exact ⟨Ne.symm hca, ha⟩
    have hclosed' : ∀ x ∈ c :: met, x = c ∨ ∃ d ∈ c :: met, f.DeclaresLast d x := by
      intro x hx
      rcases List.mem_cons.mp hx with rfl | hx
      · exact .inl rfl
      right
      rcases hclosed x hx with rfl | ⟨d, hd, hdx⟩
      · exact ⟨c, List.mem_cons_self, hlast⟩
      · exact ⟨d, List.mem_cons_of_mem _ hd, hdx⟩
    intro hchain
    rcases hlast.transGen_iff.mp hchain with rfl | hchain
    · exact hca rfl
    · exact ih hfound ha' hclosed' hchain

theorem eq_true_iff (hf : f.Reachable) (h : f.DeclarerWalk a [] b found) :
    found = true ↔ Relation.TransGen f.DeclaresLast a b := by
  cases found with
  | true => exact iff_of_true rfl (h.transGen hf rfl)
  | false => exact iff_of_false nofun (h.not_transGen hf rfl List.not_mem_nil (by simp))

end DeclarerWalk

section IsDeclaredBelow

variable {steps : Nat} {d : Descriptor}

theorem isDeclaredBelow_of_none (hb : f.nodes[b]? = some d) (h : f.declarerOf? b = none) :
    f.isDeclaredBelow a steps d.path = false := by
  rw [declarerOf?_of_node hb] at h
  cases steps with
  | zero => rfl
  | succ steps => rw [isDeclaredBelow, h]

theorem isDeclaredBelow_self (hb : f.nodes[b]? = some d) (h : f.declarerOf? b = some a) :
    f.isDeclaredBelow a (steps + 1) d.path = true := by
  rw [declarerOf?_of_node hb] at h
  rw [isDeclaredBelow, h]
  simp

theorem isDeclaredBelow_of_ne {e : Descriptor} (hb : f.nodes[b]? = some d)
    (h : f.declarerOf? b = some c) (hc : f.nodes[c]? = some e) (hca : c ≠ a) :
    f.isDeclaredBelow a (steps + 1) d.path = f.isDeclaredBelow a steps e.path := by
  rw [declarerOf?_of_node hb] at h
  rw [isDeclaredBelow, h]
  simp [hc, hca]

theorem Reachable.exists_declarer_node (hf : f.Reachable) (h : f.declarerOf? b = some c) :
    ∃ e, f.nodes[c]? = some e := by
  obtain ⟨-, -, e, he, -⟩ := (hf.declarerOf?_eq_some_iff.mp h).1
  exact ⟨e, he⟩

theorem Reachable.transGen_of_isDeclaredBelow (hf : f.Reachable) (hb : f.nodes[b]? = some d)
    (h : f.isDeclaredBelow a steps d.path = true) : Relation.TransGen f.DeclaresLast a b := by
  induction steps generalizing b d with
  | zero => cases h
  | succ steps ih =>
    cases hc : f.declarerOf? b with
    | none => simp [isDeclaredBelow_of_none hb hc] at h
    | some c =>
      have hlast : f.DeclaresLast c b := hf.declarerOf?_eq_some_iff.mp hc
      by_cases hca : c = a
      · exact hca ▸ .single hlast
      · obtain ⟨e, he⟩ := hf.exists_declarer_node hc
        rw [isDeclaredBelow_of_ne hb hc he hca] at h
        exact (ih he h).tail hlast

theorem DeclarerWalk.isDeclaredBelow (hf : f.Reachable) {met : List NodeId} {found : Bool}
    (h : f.DeclarerWalk a met b found) (hfound : found = true) (hroom : f.Room met steps)
    (ha : a ∉ met) (hb : f.nodes[b]? = some d) : f.isDeclaredBelow a steps d.path = true := by
  induction h generalizing steps d with
  | undeclared | again => cases hfound
  | found hc =>
    obtain ⟨less, rfl, -⟩ := hroom.exists_succ (hf.lt_size_of_declarerOf? hc) ha
    exact isDeclaredBelow_self hb hc
  | onward hc hca hmet _ ih =>
    obtain ⟨less, rfl, hroom'⟩ := hroom.exists_succ (hf.lt_size_of_declarerOf? hc) hmet
    obtain ⟨e, he⟩ := hf.exists_declarer_node hc
    rw [isDeclaredBelow_of_ne hb hc he hca]
    refine ih hfound hroom' ?_ he
    rw [List.mem_cons, not_or]
    exact ⟨Ne.symm hca, ha⟩

end IsDeclaredBelow

section IsDescendant

variable {l : NodeId} {leaf : Descriptor}

/-- The bound on the steps never decides: a walk that ends by itself gives the same answer. -/
theorem Reachable.isDeclaredBelow_eq (hf : f.Reachable) (hl : f.nodes[l]? = some leaf)
    {found : Bool} (h : f.DeclarerWalk a [] l found) :
    f.isDeclaredBelow a f.size leaf.path = found := by
  cases found with
  | true => exact h.isDeclaredBelow hf rfl (Room.start f) List.not_mem_nil hl
  | false =>
    have hno := mt (h.eq_true_iff hf).mpr Bool.false_ne_true
    exact Bool.eq_false_iff.mpr fun hbelow ↦ hno (hf.transGen_of_isDeclaredBelow hl hbelow)

theorem Reachable.isDeclaredBelow_iff (hf : f.Reachable) (hl : f.nodes[l]? = some leaf) :
    f.isDeclaredBelow a f.size leaf.path = true ↔ Relation.TransGen f.DeclaresLast a l := by
  obtain ⟨found, hwalk⟩ := hf.exists_declarerWalk a (Room.start f) l
  rw [hf.isDeclaredBelow_eq hl hwalk, hwalk.eq_true_iff hf]

theorem Reachable.node_of_key_iff (hf : f.Reachable) {key : DescriptorKey} {d : Descriptor} :
    f.byKey[key]?.bind (f.nodes[·]?) = some d ↔
      ∃ b : NodeId, f.nodes[b]? = some d ∧ d.descriptorKey = key := by
  simp only [Option.bind_eq_some_iff, hf.byKey_eq_some_iff]
  constructor
  · rintro ⟨b, ⟨e, he, hkey⟩, hd⟩
    obtain rfl : e = d := Option.some.inj (he.symm.trans hd)
    exact ⟨b, hd, hkey⟩
  · rintro ⟨b, hd, hkey⟩
    exact ⟨b, ⟨d, hd, hkey⟩, hd⟩

theorem Reachable.declaresLeaf_iff (hf : f.Reachable) (hl : f.nodes[l]? = some leaf) :
    f.nodes[a]?.any (f.declaresLeaf · leaf) = true ↔ f.DeclaresArtifact a leaf.key := by
  simp only [Option.any_eq_true, declaresLeaf, List.any_eq_true, Bool.or_eq_true, beq_iff_eq,
    hf.node_of_key_iff]
  constructor
  · rintro ⟨owner, howner, key, hkey, rfl | ⟨d, ⟨b, hb, rfl⟩, hartifact⟩⟩
    · -- the leaf itself is a node of its artifact
      exact ⟨l, leaf, hl, rfl, declares_iff.mpr ⟨owner, howner, hkey⟩⟩
    · exact ⟨b, d, hb, hartifact, declares_iff.mpr ⟨owner, howner, hkey⟩⟩
  · rintro ⟨b, d, hb, hartifact, hdeclares⟩
    obtain ⟨owner, howner, hkey⟩ := declares_iff.mp hdeclares
    exact ⟨owner, howner, d.descriptorKey, hkey, .inr ⟨d, ⟨b, hb, rfl⟩, hartifact⟩⟩

theorem Reachable.isDescendant_iff (hf : f.Reachable) (hl : f.nodes[l]? = some leaf) :
    f.isDescendant leaf a = true ↔
      f.DeclaresArtifact a leaf.key ∨ Relation.TransGen f.DeclaresLast a l := by
  rw [isDescendant, Bool.or_eq_true, hf.declaresLeaf_iff hl, hf.isDeclaredBelow_iff hl]

/-- A chain of declarations is found if its first node itself declares the artifact or if some chain
from there has only last declarers; so all chains are found where no node has two declarers. -/
theorem isDescendant_iff_lastDeclarers (hf : f.Reachable) (hl : f.nodes[l]? = some leaf) :
    (f.isDescendant leaf a = true ↔
      f.DeclaresArtifact a leaf.key ∨ Relation.TransGen f.DeclaresLast a l) ∧
    ((∀ b c c', f.DeclaresNode c b → f.DeclaresNode c' b → c = c') →
      Relation.TransGen f.DeclaresNode a l → f.isDescendant leaf a = true) := by
  refine ⟨hf.isDescendant_iff hl, ?_⟩
  intro honce hchain
  have hlast (c b : NodeId) (hc : f.DeclaresNode c b) : f.DeclaresLast c b :=
    ⟨hc, fun c' hc' ↦ Nat.le_of_eq (honce b c' c hc' hc)⟩
  exact (hf.isDescendant_iff hl).mpr (.inr (Relation.TransGen.mono hlast a l hchain))

end IsDescendant

section Contested

def outer : Descriptor := moduleNode "/repo/outer/pom.xml" "outer" ["../inner"]

def inner : Descriptor := moduleNode "/repo/inner/pom.xml" "inner" ["../leaf"]

def innermost : Descriptor := moduleNode "/repo/leaf/pom.xml" "leaf" []

def rival : Descriptor := moduleNode "/repo/rival/pom.xml" "rival" ["../inner"]

def contested : Forest := empty.registerAll [outer, inner, innermost, rival]

theorem contested_eq : contested = [outer, inner, innermost, rival].foldl Forest.extend empty :=
  registerAll_of_new (by decide +kernel) (fun d _ ↦ empty_byKey d.descriptorKey)

theorem contested_reachable : contested.Reachable := Reachable.empty.registerAll _

theorem contested_innermost : contested.nodes[2]? = some innermost := by
  rw [contested_eq]
  rfl

theorem contested_declaresLast : contested.DeclaresLast 1 2 ∧ contested.DeclaresLast 3 1 := by
  rw [contested_eq]
  decide +kernel

theorem contested_found :
    contested.Reachable ∧ contested.nodes[2]? = some innermost ∧
      Relation.TransGen contested.DeclaresLast 3 2 ∧
      contested.isDescendant innermost 3 = true := by
  obtain ⟨h12, h31⟩ := contested_declaresLast
  have hchain : Relation.TransGen contested.DeclaresLast 3 2 := .tail (.single h31) h12
  refine ⟨contested_reachable, contested_innermost, hchain, ?_⟩
  exact (isDescendant_iff_lastDeclarers contested_reachable contested_innermost).1.mpr (.inr hchain)

/-- An outer aggregator declares an inner one, which declares the leaf. The chain is missed because
the rival declares the inner one later. -/
theorem contested_missed :
    contested.Reachable ∧ contested.nodes[2]? = some innermost ∧
      Relation.TransGen contested.DeclaresNode 0 2 ∧
      contested.isDescendant innermost 0 = false := by
  have hchain : contested.DeclaresNode 0 1 ∧ contested.DeclaresNode 1 2 := by
    rw [contested_eq]
    decide +kernel
  have hdirect : ¬ contested.DeclaresArtifact 0 innermost.key := by
    rw [contested_eq]
    decide +kernel
  have hundeclared : ∀ b < contested.size, ¬ contested.DeclaresLast b 3 := by
    rw [contested_eq]
    decide +kernel
  refine ⟨contested_reachable, contested_innermost, .tail (.single hchain.1) hchain.2, ?_⟩
  obtain ⟨h12, h31⟩ := contested_declaresLast
  rw [Bool.eq_false_iff, ne_eq, contested_reachable.isDescendant_iff contested_innermost, not_or,
    h12.transGen_iff, h31.transGen_iff, Relation.TransGen.tail'_iff]
  refine ⟨hdirect, ?_⟩
  rintro (h | h | ⟨b, -, hb⟩)
  · exact absurd h (by decide)
  · exact absurd h (by decide)
  · exact hundeclared b hb.1.left_lt_size hb

end Contested

end Forest

end Reactor
