import Mathlib.Data.Set.Card
import Reactor.Proofs.Coordinate
import Reactor.Proofs.ImportTour

namespace Reactor

namespace Synthesizer

/-- The imports at and below `imports`, through those that the sources can load. -/
inductive Reaches (s : Synthesizer) (imports : List Coordinate) : Coordinate → Prop
  | start {c : Coordinate} : c ∈ imports → Reaches s imports c
  | onward {b c : Coordinate} {i : Imported} : Reaches s imports b → s.imported? b = some i →
      c ∈ i.imports → Reaches s imports c

/-- A depth-first search without a limit. From the coordinates met before and the imports to visit
it leads to the loaded imports, in the order of their visits, and to the coordinates met after. -/
inductive DepthFirst (s : Synthesizer) :
    List Coordinate → List Coordinate → List (Coordinate × Imported) → List Coordinate → Prop
  | done (met : List Coordinate) : DepthFirst s met [] [] met
  | again {c : Coordinate} {met rest met' : List Coordinate}
      {order : List (Coordinate × Imported)} :
      c ∈ met → DepthFirst s met rest order met' → DepthFirst s met (c :: rest) order met'
  | missing {c : Coordinate} {met rest met' : List Coordinate}
      {order : List (Coordinate × Imported)} :
      c ∉ met → s.imported? c = none → DepthFirst s (c :: met) rest order met' →
      DepthFirst s met (c :: rest) order met'
  | loaded {c : Coordinate} {i : Imported} {met rest met₁ met' : List Coordinate}
      {inside after : List (Coordinate × Imported)} :
      c ∉ met → s.imported? c = some i → DepthFirst s (c :: met) i.imports inside met₁ →
      DepthFirst s met₁ rest after met' →
      DepthFirst s met (c :: rest) ((c, i) :: (inside ++ after)) met'

variable {s : Synthesizer}

theorem Reaches.mem_of_closed {imports room : List Coordinate} {c : Coordinate}
    (h : s.Reaches imports c) (hstart : imports ⊆ room)
    (hclosed : ∀ c ∈ room, ∀ i ∈ s.imported? c, i.imports ⊆ room) : c ∈ room := by
  induction h with
  | start hc => exact hstart hc
  | onward _ hi hc ih => exact hclosed _ ih _ hi hc

namespace DepthFirst

variable {met imports met' : List Coordinate} {order : List (Coordinate × Imported)}

theorem of_subset (h : imports ⊆ met) : DepthFirst s met imports [] met := by
  induction imports with
  | nil => exact .done met
  | cons c rest ih =>
    obtain ⟨hc, hrest⟩ := List.cons_subset.mp h
    exact .again hc (ih hrest)

theorem subset (h : DepthFirst s met imports order met') : met ⊆ met' := by
  induction h with
  | done => exact List.Subset.refl _
  | again _ _ ih => exact ih
  | missing _ _ _ ih =>
    intro b hb
    exact ih (List.mem_cons_of_mem _ hb)
  | loaded _ _ _ _ ih ih' =>
    intro b hb
    exact ih' (ih (List.mem_cons_of_mem _ hb))

theorem imports_subset (h : DepthFirst s met imports order met') : imports ⊆ met' := by
  induction h with
  | done => exact List.nil_subset _
  | again hc h ih => exact List.cons_subset.mpr ⟨h.subset hc, ih⟩
  | missing _ _ h ih => exact List.cons_subset.mpr ⟨h.subset List.mem_cons_self, ih⟩
  | @loaded c i met rest met₁ met' inside after _ _ h h' _ ih' =>
    have hc : c ∈ met₁ := h.subset List.mem_cons_self
    exact List.cons_subset.mpr ⟨h'.subset hc, ih'⟩

theorem imported_of_mem (h : DepthFirst s met imports order met') {p : Coordinate × Imported}
    (hp : p ∈ order) : s.imported? p.1 = some p.2 := by
  induction h with
  | done => cases hp
  | again _ _ ih | missing _ _ _ ih => exact ih hp
  | loaded _ hi _ _ ih ih' =>
    rcases List.mem_cons.mp hp with rfl | hp
    · exact hi
    · exact (List.mem_append.mp hp).elim ih ih'

theorem closed (h : DepthFirst s met imports order met') {p : Coordinate × Imported}
    (hp : p ∈ order) : p.2.imports ⊆ met' := by
  induction h with
  | done => cases hp
  | again _ _ ih | missing _ _ _ ih => exact ih hp
  | loaded _ _ h h' ih ih' =>
    rcases List.mem_cons.mp hp with rfl | hp
    · exact List.Subset.trans h.imports_subset h'.subset
    rcases List.mem_append.mp hp with hp | hp
    · exact List.Subset.trans (ih hp) h'.subset
    · exact ih' hp

theorem cases_of_mem (h : DepthFirst s met imports order met') {c : Coordinate} (hc : c ∈ met') :
    c ∈ met ∨ s.imported? c = none ∨ c ∈ order.map Prod.fst := by
  induction h with
  | done => exact .inl hc
  | again _ _ ih => exact ih hc
  | missing _ hi _ ih =>
    rcases ih hc with hc | hc
    · rcases List.mem_cons.mp hc with rfl | hc
      · exact .inr (.inl hi)
      · exact .inl hc
    · exact .inr hc
  | loaded _ _ _ _ ih ih' =>
    simp only [List.map_cons, List.map_append, List.mem_cons, List.mem_append] at ih ⊢
    rcases ih' hc with hc | hc | hc
    · rcases ih hc with (rfl | hc) | hc | hc <;> simp [*]
    · simp [hc]
    · simp [hc]

theorem notMem_of_mem (h : DepthFirst s met imports order met') {c : Coordinate}
    (hc : c ∈ order.map Prod.fst) : c ∉ met ∧ c ∈ met' := by
  induction h with
  | done => cases hc
  | again _ _ ih => exact ih hc
  | missing _ _ _ ih =>
    obtain ⟨hm, hm'⟩ := ih hc
    rw [List.mem_cons, not_or] at hm
    exact ⟨hm.2, hm'⟩
  | loaded hn _ h h' ih ih' =>
    simp only [List.map_cons, List.map_append, List.mem_cons, List.mem_append] at hc
    rcases hc with rfl | hc | hc
    · exact ⟨hn, h'.subset (h.subset List.mem_cons_self)⟩
    · obtain ⟨hm, hm'⟩ := ih hc
      rw [List.mem_cons, not_or] at hm
      exact ⟨hm.2, h'.subset hm'⟩
    · obtain ⟨hm, hm'⟩ := ih' hc
      refine ⟨?_, hm'⟩
      intro hc
      exact hm (h.subset (List.mem_cons_of_mem _ hc))

theorem nodup (h : DepthFirst s met imports order met') : (order.map Prod.fst).Nodup := by
  induction h with
  | done => exact List.nodup_nil
  | again _ _ ih | missing _ _ _ ih => exact ih
  | loaded _ _ h h' ih ih' =>
    rw [List.map_cons, List.map_append, List.nodup_cons, List.nodup_append]
    refine ⟨?_, ih, ih', ?_⟩
    · intro hc
      rcases List.mem_append.mp hc with hc | hc
      · exact (h.notMem_of_mem hc).1 List.mem_cons_self
      · exact (h'.notMem_of_mem hc).1 (h.subset List.mem_cons_self)
    · rintro b hb _ hc rfl
      exact (h'.notMem_of_mem hc).1 (h.notMem_of_mem hb).2

theorem met_nodup (h : DepthFirst s met imports order met') (hm : met.Nodup) : met'.Nodup := by
  induction h with
  | done => exact hm
  | again _ _ ih => exact ih hm
  | missing hc _ _ ih => exact ih (hm.cons hc)
  | loaded hc _ _ _ ih ih' => exact ih' (ih (hm.cons hc))

theorem forall_met {P : Coordinate → Prop}
    (hP : ∀ c i, P c → s.imported? c = some i → ∀ b ∈ i.imports, P b)
    (h : DepthFirst s met imports order met') (hi : ∀ c ∈ imports, P c) (hm : ∀ c ∈ met, P c) :
    ∀ c ∈ met', P c := by
  induction h with
  | done => exact hm
  | again _ _ ih =>
    rw [List.forall_mem_cons] at hi
    exact ih hi.2 hm
  | missing _ _ _ ih =>
    rw [List.forall_mem_cons] at hi
    exact ih hi.2 (List.forall_mem_cons.mpr ⟨hi.1, hm⟩)
  | loaded _ hc _ _ ih ih' =>
    rw [List.forall_mem_cons] at hi
    have hinside := ih (hP _ _ hi.1 hc) (List.forall_mem_cons.mpr ⟨hi.1, hm⟩)
    exact ih' hi.2 hinside

theorem mem_order_of_mem (h : DepthFirst s [] imports order met') {c : Coordinate} {i : Imported}
    (hc : c ∈ met') (hi : s.imported? c = some i) : (c, i) ∈ order := by
  rcases h.cases_of_mem hc with hn | hn | hm
  · cases hn
  · simp [hi] at hn
  · obtain ⟨⟨c, j⟩, hp, rfl⟩ := List.mem_map.mp hm
    obtain rfl : j = i := Option.some.inj ((h.imported_of_mem hp).symm.trans hi)
    exact hp

theorem mem_of_reaches (h : DepthFirst s [] imports order met') {c : Coordinate}
    (hc : s.Reaches imports c) : c ∈ met' := by
  induction hc with
  | start hc => exact h.imports_subset hc
  | onward _ hi hc ih => exact h.closed (h.mem_order_of_mem ih hi) hc

theorem mem_order_iff (h : DepthFirst s [] imports order met') (c : Coordinate) (i : Imported) :
    (c, i) ∈ order ↔ s.Reaches imports c ∧ s.imported? c = some i := by
  constructor
  · intro hp
    have hc : c ∈ met' := (h.notMem_of_mem (List.mem_map_of_mem hp)).2
    have hreach : ∀ b ∈ met', s.Reaches imports b := by
      apply h.forall_met (P := s.Reaches imports)
      · intro b i hb hi c hc
        exact .onward hb hi hc
      · intro b hb
        exact .start hb
      · simp
    exact ⟨hreach c hc, h.imported_of_mem hp⟩
  · rintro ⟨hc, hi⟩
    exact h.mem_order_of_mem (h.mem_of_reaches hc) hi

theorem exists_pins_iff (h : DepthFirst s [] imports order met') (key : ArtifactKey) :
    (∃ e ∈ order.flatMap (·.2.entries), e.1.Pins e.2 key) ↔
      ∃ c i, s.Reaches imports c ∧ s.imported? c = some i ∧ i.Pins key := by
  constructor
  · rintro ⟨e, he, hpins⟩
    obtain ⟨⟨c, i⟩, hp, he⟩ := List.mem_flatMap.mp he
    obtain ⟨hc, hi⟩ := (h.mem_order_iff c i).mp hp
    exact ⟨c, i, hc, hi, exists_mem_scopedEntries_iff.mp ⟨e, he, hpins⟩⟩
  · rintro ⟨c, i, hc, hi, hpins⟩
    obtain ⟨e, he, hpins⟩ := exists_mem_scopedEntries_iff.mpr hpins
    exact ⟨e, List.mem_flatMap.mpr ⟨(c, i), (h.mem_order_iff c i).mpr ⟨hc, hi⟩, he⟩, hpins⟩

end DepthFirst

/-- A tour whose limit leaves room for every coordinate that is not met yet is a search without a
limit: when the limit is reached nothing is left to meet. -/
theorem depthFirst_of_tour {room : Finset Coordinate} (hplain : ∀ c ∈ room, c.IsPlain)
    (hroom : ∀ c i, c ∈ room → s.imported? c = some i → ∀ b ∈ i.imports, b ∈ room) (depth : Nat)
    (imports met : List Coordinate) (himports : ∀ c ∈ imports, c ∈ room)
    (hmet : ∀ c ∈ met, c ∈ room) (hnodup : met.Nodup) (hdepth : room.card ≤ depth + met.length) :
    ∃ met', (s.tour depth imports (met.map Coordinate.text)).2 = met'.map Coordinate.text ∧
      s.DepthFirst met imports ((s.tour depth imports (met.map Coordinate.text)).1.map
        fun v ↦ (v.coordinate, v.imported)) met' := by
  induction depth generalizing imports met with
  | zero =>
    -- `met` holds as many coordinates as there are, so nothing new can be imported
    have hsub : met.toFinset ⊆ room := fun c hc ↦ hmet c (List.mem_toFinset.mp hc)
    have hcard : room.card ≤ met.toFinset.card := by
      rw [List.toFinset_card_of_nodup hnodup]
      omega
    have he : met.toFinset = room := Finset.eq_of_subset_of_card_le hsub hcard
    have himported : imports ⊆ met := by
      intro c hc
      rw [← List.mem_toFinset, he]
      exact himports c hc
    rw [tour]
    exact ⟨met, rfl, .of_subset himported⟩
  | succ remaining ih =>
    induction imports generalizing met with
    | nil =>
      rw [tour_nil]
      exact ⟨met, rfl, .done met⟩
    | cons c rest ihrest =>
      obtain ⟨hc, hrest⟩ := List.forall_mem_cons.mp himports
      have hin : c.text ∈ met.map Coordinate.text ↔ c ∈ met := by
        constructor
        · intro h
          obtain ⟨b, hb, he⟩ := List.mem_map.mp h
          obtain rfl : b = c := (hplain b (hmet b hb)).text_inj (hplain c hc) he
          exact hb
        · exact List.mem_map_of_mem
      by_cases hm : c ∈ met
      · rw [tour_of_mem (hin.mpr hm)]
        obtain ⟨met', he, h⟩ := ihrest met hrest hmet hnodup hdepth
        exact ⟨met', he, .again hm h⟩
      have hmet' : ∀ b ∈ c :: met, b ∈ room := List.forall_mem_cons.mpr ⟨hc, hmet⟩
      have hnodup' : (c :: met).Nodup := hnodup.cons hm
      have hdepth' : room.card ≤ remaining + (c :: met).length := by
        rw [List.length_cons]
        omega
      cases hi : s.imported? c with
      | none =>
        rw [tour_of_missing (hin.not.mpr hm) hi, ← List.map_cons]
        obtain ⟨met', he, h⟩ := ihrest (c :: met) hrest hmet' hnodup' (by omega)
        exact ⟨met', he, .missing hm hi h⟩
      | some i =>
        rw [tour_of_loaded (hin.not.mpr hm) hi, ← List.map_cons]
        obtain ⟨met₁, he₁, h₁⟩ := ih i.imports (c :: met) (hroom c i hc hi) hmet' hnodup' hdepth'
        have hmet₁ : ∀ b ∈ met₁, b ∈ room := h₁.forall_met hroom (hroom c i hc hi) hmet'
        have hnodup₁ : met₁.Nodup := h₁.met_nodup hnodup'
        have hlength : (c :: met).length ≤ met₁.length := (hnodup'.subperm h₁.subset).length_le
        obtain ⟨met', he, h⟩ := ihrest met₁ hrest hmet₁ hnodup₁ (by omega)
        rw [he₁]
        refine ⟨met', he, ?_⟩
        rw [List.map_cons, List.map_append]
        exact .loaded hm hi h₁ h

/-- The coordinates that are reached fit the depth limit and are plain. -/
structure HasRoom (s : Synthesizer) (imports : List Coordinate) : Prop where
  plain : ∀ c, s.Reaches imports c → c.IsPlain
  depth : {c | s.Reaches imports c}.encard ≤ s.maxImportDepth

theorem HasRoom.of_closed {imports : List Coordinate} (room : List Coordinate)
    (hstart : imports ⊆ room) (hclosed : ∀ c ∈ room, ∀ i ∈ s.imported? c, i.imports ⊆ room)
    (hplain : ∀ c ∈ room, c.IsPlain) (hlength : room.length ≤ s.maxImportDepth) :
    s.HasRoom imports := by
  have hmem : ∀ c, s.Reaches imports c → c ∈ room := by
    intro c hc
    exact hc.mem_of_closed hstart hclosed
  refine ⟨fun c hc ↦ hplain c (hmem c hc), ?_⟩
  have hsub : {c | s.Reaches imports c} ⊆ room.toFinset := by
    intro c hc
    simpa using hmem c hc
  have hcard : room.toFinset.card ≤ s.maxImportDepth := (List.toFinset_card_le room).trans hlength
  apply (Set.encard_le_encard hsub).trans
  rw [Set.encard_coe_eq_coe_finsetCard]
  exact_mod_cast hcard

theorem HasRoom.exists_depthFirst {imports : List Coordinate} (h : s.HasRoom imports) :
    ∃ met', s.DepthFirst [] imports
      ((s.tour s.maxImportDepth imports []).1.map fun v ↦ (v.coordinate, v.imported)) met' := by
  have hfinite : {c | s.Reaches imports c}.Finite := Set.finite_of_encard_le_coe h.depth
  have hmem (c : Coordinate) : c ∈ hfinite.toFinset ↔ s.Reaches imports c := hfinite.mem_toFinset
  have hcard : hfinite.toFinset.card ≤ s.maxImportDepth := by
    have hd := h.depth
    rw [hfinite.encard_eq_coe_toFinset_card] at hd
    exact_mod_cast hd
  have hplain : ∀ c ∈ hfinite.toFinset, c.IsPlain := by
    intro c hc
    exact h.plain c ((hmem c).mp hc)
  have hclosed : ∀ c i, c ∈ hfinite.toFinset → s.imported? c = some i →
      ∀ b ∈ i.imports, b ∈ hfinite.toFinset := by
    intro c i hc hi b hb
    rw [hmem] at hc ⊢
    exact .onward hc hi hb
  have hstart : ∀ c ∈ imports, c ∈ hfinite.toFinset := by
    intro c hc
    exact (hmem c).mpr (.start hc)
  obtain ⟨met', -, hd⟩ := depthFirst_of_tour hplain hclosed s.maxImportDepth imports [] hstart
    (by simp) List.nodup_nil hcard
  exact ⟨met', hd⟩

/-- Where the depth limit leaves room for every import that can be reached, one depth-first order of
these imports serves every artifact: a search gives what the first entry that pins the artifact
says, among the entries of the layers and then of the imports in that order. -/
theorem lookupManaged_eq_firstPin? {cache : ImportCache} (hcache : cache.Reachable s)
    (layers : List Descriptor) (scope : Properties)
    (hroom : s.HasRoom (importsOf layers scope)) :
    ∃ order met', s.DepthFirst [] (importsOf layers scope) order met' ∧
      (order.map Prod.fst).Nodup ∧
      (∀ c i, (c, i) ∈ order ↔ s.Reaches (importsOf layers scope) c ∧ s.imported? c = some i) ∧
      ∀ key,
        (s.lookupManaged key s.maxImportDepth layers scope ⟨[], cache⟩).1 =
          firstPin? key (scopedEntries layers scope ++ order.flatMap (·.2.entries)) ∧
        ((s.lookupManaged key s.maxImportDepth layers scope ⟨[], cache⟩).1.isSome ↔
          PinnedIn layers scope key ∨
          ∃ c i, s.Reaches (importsOf layers scope) c ∧ s.imported? c = some i ∧ i.Pins key) := by
  obtain ⟨met', h⟩ := hroom.exists_depthFirst
  refine ⟨_, met', h, h.nodup, h.mem_order_iff, ?_⟩
  intro key
  have hfound := lookupManaged_eq hcache key layers scope
  rw [managedIn?_eq_firstPin?, importPin?_eq_firstPin?, ← firstPin?_append] at hfound
  rw [← List.flatMap_map (fun v : ImportVisit ↦ (v.coordinate, v.imported)) (·.2.entries)]
    at hfound
  refine ⟨hfound, ?_⟩
  rw [hfound, firstPin?_append, Option.isSome_or, Bool.or_eq_true, firstPin?_isSome_iff,
    firstPin?_isSome_iff, exists_mem_scopedEntries_iff, h.exists_pins_iff]

def loop : Synthesizer :=
  ⟨[.ofList [.managing "a" [.importing "b"], .managing "b" [.importing "a", .pinning "lib"]]], 2⟩

def loopLayers : List Descriptor := [.managing "leaf" [.importing "a"]]

theorem loop_hasRoom : loop.HasRoom (importsOf loopLayers ∅) := by
  refine .of_closed [.bare "a", .bare "b"] ?_ ?_ ?_ ?_ <;> decide +kernel

/-- The layers say nothing of the artifact, and the second import pins it. -/
theorem lookupManaged_loop :
    ImportCache.empty.Reachable loop ∧ loop.HasRoom (importsOf loopLayers ∅) ∧
      ¬ PinnedIn loopLayers ∅ ⟨"g", "lib"⟩ ∧
      (loop.lookupManaged ⟨"g", "lib"⟩ loop.maxImportDepth loopLayers ∅ ⟨[], .empty⟩).1 =
        some ⟨"1", none⟩ ∧
      (∃ c i, loop.Reaches (importsOf loopLayers ∅) c ∧ loop.imported? c = some i ∧
        i.Pins ⟨"g", "lib"⟩) ∧
      ∃ order met', loop.DepthFirst [] (importsOf loopLayers ∅) order met' ∧
        (∀ key, (loop.lookupManaged key loop.maxImportDepth loopLayers ∅ ⟨[], .empty⟩).1 =
          firstPin? key (scopedEntries loopLayers ∅ ++ order.flatMap (·.2.entries))) ∧
        firstPin? ⟨"g", "lib"⟩ (order.flatMap (·.2.entries)) = some ⟨"1", none⟩ := by
  obtain ⟨order, met', h, -, -, hkey⟩ :=
    lookupManaged_eq_firstPin? .empty loopLayers ∅ loop_hasRoom
  have hlayers : firstPin? ⟨"g", "lib"⟩ (scopedEntries loopLayers ∅) = none := by decide +kernel
  have hunpinned : ¬ PinnedIn loopLayers ∅ ⟨"g", "lib"⟩ := by
    rw [← exists_mem_scopedEntries_iff, ← firstPin?_isSome_iff, hlayers]
    exact Bool.false_ne_true
  have hfound : (loop.lookupManaged ⟨"g", "lib"⟩ loop.maxImportDepth loopLayers ∅
      ⟨[], .empty⟩).1 = some ⟨"1", none⟩ := by decide +kernel
  obtain ⟨hfirst, hreached⟩ := hkey ⟨"g", "lib"⟩
  rw [hfound] at hfirst hreached
  rw [firstPin?_append, hlayers, Option.none_or] at hfirst
  exact ⟨.empty, loop_hasRoom, hunpinned, hfound, (hreached.mp rfl).resolve_left hunpinned, order,
    met', h, fun key ↦ (hkey key).1, hfirst.symm⟩

end Synthesizer

end Reactor
