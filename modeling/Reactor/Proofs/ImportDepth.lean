import Reactor.Proofs.ImportReach

namespace Reactor

namespace Synthesizer

/-- A chain of loadable imports that starts at one of `imports`, with what its last member
supplies. -/
inductive ImportChain (s : Synthesizer) : List Coordinate → List Coordinate → Imported → Prop
  | last {imports : List Coordinate} {c : Coordinate} {i : Imported} :
      c ∈ imports → s.imported? c = some i → ImportChain s imports [c] i
  | cons {imports chain : List Coordinate} {c : Coordinate} {i j : Imported} :
      c ∈ imports → s.imported? c = some i → ImportChain s i.imports chain j →
      ImportChain s imports (c :: chain) j

/-- A search from `imports` meets the import at a depth below which it goes on. -/
def MeetsAboveLimit (s : Synthesizer) (imports : List Coordinate) (c : Coordinate) : Prop :=
  ∃ v ∈ (s.tour s.maxImportDepth imports []).1, v.coordinate = c ∧ 0 < v.remaining

variable {s : Synthesizer}

theorem ImportChain.ne_nil {imports chain : List Coordinate} {i : Imported}
    (h : s.ImportChain imports chain i) : chain ≠ [] := by
  cases h <;> exact List.cons_ne_nil _ _

theorem ImportChain.mono {imports imports' chain : List Coordinate} {i : Imported}
    (h : s.ImportChain imports chain i) (hi : imports ⊆ imports') :
    s.ImportChain imports' chain i := by
  cases h with
  | last hc hl => exact .last (hi hc) hl
  | cons hc hl h => exact .cons (hi hc) hl h

section Tour

variable {depth : Nat} {imports : List Coordinate} {met : List String}

theorem subset_tour : met ⊆ (s.tour depth imports met).2 := by
  induction depth, imports, met using tour_induct s with
  | limit => rw [tour]; exact List.Subset.refl _
  | done => rw [tour_nil]; exact List.Subset.refl _
  | again remaining c rest met hm ih => rw [tour_of_mem hm]; exact ih
  | missing remaining c rest met hm hi ih =>
    rw [tour_of_missing hm hi]
    intro t ht
    exact ih (List.mem_cons_of_mem _ ht)
  | loaded remaining c rest met i hm hi ih ih' =>
    rw [tour_of_loaded hm hi]
    intro t ht
    exact ih' (ih (List.mem_cons_of_mem _ ht))

theorem text_mem_tour (hdepth : 0 < depth) :
    ∀ c ∈ imports, c.text ∈ (s.tour depth imports met).2 := by
  induction depth, imports, met using tour_induct s with
  | limit => omega
  | done => simp
  | again remaining c rest met hm ih =>
    rw [tour_of_mem hm, List.forall_mem_cons]
    exact ⟨subset_tour hm, ih hdepth⟩
  | missing remaining c rest met hm hi ih =>
    rw [tour_of_missing hm hi, List.forall_mem_cons]
    exact ⟨subset_tour List.mem_cons_self, ih hdepth⟩
  | loaded remaining c rest met i hm hi ih ih' =>
    rw [tour_of_loaded hm hi, List.forall_mem_cons]
    exact ⟨subset_tour (subset_tour List.mem_cons_self), ih' hdepth⟩

theorem imported_of_mem_tour {v : ImportVisit} (hv : v ∈ (s.tour depth imports met).1) :
    s.imported? v.coordinate = some v.imported := by
  induction depth, imports, met using tour_induct s with
  | limit => rw [tour] at hv; cases hv
  | done => rw [tour_nil] at hv; cases hv
  | again remaining c rest met hm ih => rw [tour_of_mem hm] at hv; exact ih hv
  | missing remaining c rest met hm hi ih => rw [tour_of_missing hm hi] at hv; exact ih hv
  | loaded remaining c rest met i hm hi ih ih' =>
    rw [tour_of_loaded hm hi] at hv
    rcases List.mem_cons.mp hv with rfl | hv
    · exact hi
    rcases List.mem_append.mp hv with hv | hv
    · exact ih hv
    · exact ih' hv

theorem text_mem_of_mem_tour {v : ImportVisit} (hv : v ∈ (s.tour depth imports met).1)
    (hr : 0 < v.remaining) : ∀ c ∈ v.imported.imports, c.text ∈ (s.tour depth imports met).2 := by
  induction depth, imports, met using tour_induct s with
  | limit => rw [tour] at hv; cases hv
  | done => rw [tour_nil] at hv; cases hv
  | again remaining c rest met hm ih => rw [tour_of_mem hm] at hv ⊢; exact ih hv
  | missing remaining c rest met hm hi ih => rw [tour_of_missing hm hi] at hv ⊢; exact ih hv
  | loaded remaining c rest met i hm hi ih ih' =>
    rw [tour_of_loaded hm hi] at hv ⊢
    rcases List.mem_cons.mp hv with rfl | hv
    · intro c hc
      exact subset_tour (text_mem_tour hr c hc)
    rcases List.mem_append.mp hv with hv | hv
    · intro c hc
      exact subset_tour (ih hv c hc)
    · exact ih' hv

theorem cases_of_mem_tour {P : Coordinate → Prop}
    (hP : ∀ c i, P c → s.imported? c = some i → ∀ b ∈ i.imports, P b)
    (himports : ∀ c ∈ imports, P c) {t : String} (ht : t ∈ (s.tour depth imports met).2) :
    t ∈ met ∨ ∃ c, P c ∧ c.text = t ∧
      (s.imported? c = none ∨ ∃ v ∈ (s.tour depth imports met).1, v.coordinate = c) := by
  induction depth, imports, met using tour_induct s with
  | limit => rw [tour] at ht; exact .inl ht
  | done => rw [tour_nil] at ht; exact .inl ht
  | again remaining c rest met hm ih =>
    rw [tour_of_mem hm] at ht ⊢
    exact ih (List.forall_mem_cons.mp himports).2 ht
  | missing remaining c rest met hm hi ih =>
    obtain ⟨hc, hrest⟩ := List.forall_mem_cons.mp himports
    rw [tour_of_missing hm hi] at ht ⊢
    rcases ih hrest ht with ht | ht
    · rcases List.mem_cons.mp ht with rfl | ht
      · exact .inr ⟨c, hc, rfl, .inl hi⟩
      · exact .inl ht
    · exact .inr ht
  | loaded remaining c rest met i hm hi ih ih' =>
    obtain ⟨hc, hrest⟩ := List.forall_mem_cons.mp himports
    rw [tour_of_loaded hm hi] at ht ⊢
    rcases ih' hrest ht with ht | ⟨b, hb, he, ht⟩
    · rcases ih (hP c i hc hi) ht with ht | ⟨b, hb, he, ht⟩
      · rcases List.mem_cons.mp ht with rfl | ht
        · exact .inr ⟨c, hc, rfl, .inr ⟨_, List.mem_cons_self, rfl⟩⟩
        · exact .inl ht
      · obtain hn | ⟨v, hv, hvb⟩ := ht
        · exact .inr ⟨b, hb, he, .inl hn⟩
        · exact .inr ⟨b, hb, he, .inr ⟨v, List.mem_cons_of_mem _ (List.mem_append_left _ hv), hvb⟩⟩
    · obtain hn | ⟨v, hv, hvb⟩ := ht
      · exact .inr ⟨b, hb, he, .inl hn⟩
      · exact .inr ⟨b, hb, he, .inr ⟨v, List.mem_cons_of_mem _ (List.mem_append_right _ hv), hvb⟩⟩

theorem exists_importChain {v : ImportVisit} (hv : v ∈ (s.tour depth imports met).1) :
    ∃ chain, s.ImportChain imports chain v.imported ∧ chain.length + v.remaining = depth ∧
      ∀ c ∈ chain.dropLast,
        ∃ w ∈ (s.tour depth imports met).1, w.coordinate = c ∧ 0 < w.remaining := by
  induction depth, imports, met using tour_induct s with
  | limit => rw [tour] at hv; cases hv
  | done => rw [tour_nil] at hv; cases hv
  | again remaining c rest met hm ih =>
    rw [tour_of_mem hm] at hv ⊢
    obtain ⟨chain, h, hlength, habove⟩ := ih hv
    exact ⟨chain, h.mono (List.subset_cons_self _ _), hlength, habove⟩
  | missing remaining c rest met hm hi ih =>
    rw [tour_of_missing hm hi] at hv ⊢
    obtain ⟨chain, h, hlength, habove⟩ := ih hv
    exact ⟨chain, h.mono (List.subset_cons_self _ _), hlength, habove⟩
  | loaded remaining c rest met i hm hi ih ih' =>
    rw [tour_of_loaded hm hi] at hv ⊢
    rcases List.mem_cons.mp hv with rfl | hv
    · exact ⟨[c], .last List.mem_cons_self hi, by simp [Nat.add_comm], by simp⟩
    rcases List.mem_append.mp hv with hv | hv
    · obtain ⟨chain, h, hlength, habove⟩ := ih hv
      have hpos : 0 < chain.length := List.length_pos_iff.mpr h.ne_nil
      refine ⟨c :: chain, .cons List.mem_cons_self hi h, by simp; omega, ?_⟩
      rw [List.dropLast_cons_of_ne_nil h.ne_nil, List.forall_mem_cons]
      refine ⟨⟨_, List.mem_cons_self, rfl, ?_⟩, ?_⟩
      · dsimp only
        omega
      · intro b hb
        obtain ⟨w, hw, hwb⟩ := habove b hb
        exact ⟨w, List.mem_cons_of_mem _ (List.mem_append_left _ hw), hwb⟩
    · obtain ⟨chain, h, hlength, habove⟩ := ih' hv
      refine ⟨chain, h.mono (List.subset_cons_self _ _), hlength, ?_⟩
      intro b hb
      obtain ⟨w, hw, hwb⟩ := habove b hb
      exact ⟨w, List.mem_cons_of_mem _ (List.mem_append_right _ hw), hwb⟩

end Tour

theorem ImportChain.mem_tour {start imports chain : List Coordinate} {i : Imported}
    (hplain : ∀ c, s.Reaches start c → c.IsPlain) (h : s.ImportChain imports chain i)
    (hreach : ∀ c ∈ imports, s.Reaches start c)
    (hmet : ∀ c ∈ imports, c.text ∈ (s.tour s.maxImportDepth start []).2)
    (habove : ∀ c ∈ chain.dropLast, s.MeetsAboveLimit start c) :
    ∃ v ∈ (s.tour s.maxImportDepth start []).1, v.imported = i := by
  induction h with
  | @last imports c i hc hi =>
    have honward : ∀ b j, s.Reaches start b → s.imported? b = some j →
        ∀ a ∈ j.imports, s.Reaches start a := by
      intro b j hb hj a ha
      exact .onward hb hj ha
    -- what is met is missing or visited under its own text, and texts tell plain coordinates apart
    obtain ht | ⟨b, hb, he, ht⟩ := cases_of_mem_tour honward (fun _ hb ↦ .start hb) (hmet c hc)
    · cases ht
    obtain rfl : b = c := (hplain b hb).text_inj (hplain c (hreach c hc)) he
    obtain hn | ⟨v, hv, rfl⟩ := ht
    · rw [hn] at hi
      cases hi
    · have hv' := imported_of_mem_tour hv
      rw [hi] at hv'
      exact ⟨v, hv, (Option.some.inj hv').symm⟩
  | @cons imports chain c i j hc hi h ih =>
    rw [List.dropLast_cons_of_ne_nil h.ne_nil, List.forall_mem_cons] at habove
    obtain ⟨⟨v, hv, rfl, hr⟩, habove⟩ := habove
    obtain rfl : v.imported = i := Option.some.inj ((imported_of_mem_tour hv).symm.trans hi)
    have hreach' : ∀ b ∈ v.imported.imports, s.Reaches start b := by
      intro b hb
      exact .onward (hreach _ hc) hi hb
    exact ih hreach' (text_mem_of_mem_tour hv hr) habove

theorem importPin?_isSome_iff {layers : List Descriptor} {scope : Properties}
    {key : ArtifactKey} :
    (s.importPin? key layers scope).isSome = true ↔
      ∃ v ∈ (s.tour s.maxImportDepth (importsOf layers scope) []).1, v.imported.Pins key := by
  rw [importPin?, List.findSome?_isSome_iff]
  simp only [Imported.managed?, managedIn?_isSome_iff, Imported.Pins]

/-- A search finds a version exactly if the layers pin the artifact, or if a chain of imports within
the limit leads to a descriptor that does and all members before the last are first met above the
limit. -/
theorem lookupManaged_isSome_iff_importChain {cache : ImportCache} (hcache : cache.Reachable s)
    (layers : List Descriptor) (scope : Properties) (key : ArtifactKey)
    (hplain : ∀ c, s.Reaches (importsOf layers scope) c → c.IsPlain) :
    (s.lookupManaged key s.maxImportDepth layers scope ⟨[], cache⟩).1.isSome ↔
      PinnedIn layers scope key ∨
      ∃ chain i, s.ImportChain (importsOf layers scope) chain i ∧
        chain.length ≤ s.maxImportDepth ∧
        (∀ c ∈ chain.dropLast, s.MeetsAboveLimit (importsOf layers scope) c) ∧ i.Pins key := by
  rw [lookupManaged_eq hcache, Option.isSome_or, Bool.or_eq_true, managedIn?_isSome_iff,
    importPin?_isSome_iff]
  apply or_congr_right
  constructor
  · rintro ⟨v, hv, hpins⟩
    obtain ⟨chain, h, hlength, habove⟩ := exists_importChain hv
    exact ⟨chain, v.imported, h, by omega, habove, hpins⟩
  · rintro ⟨chain, i, h, hlength, habove, hpins⟩
    have hpos : 0 < chain.length := List.length_pos_iff.mpr h.ne_nil
    obtain ⟨v, hv, rfl⟩ := h.mem_tour hplain (fun _ hc ↦ .start hc)
      (text_mem_tour (by omega)) habove
    exact ⟨v, hv, hpins⟩

/-- Two ways lead to the descriptor that pins an artifact, one of them through a further import; the
longer one comes first. -/
def detour (maxImportDepth : Nat) : Synthesizer where
  sources := [.ofList [.managing "a" [.importing "x"], .managing "x" [.importing "b"],
    .managing "b" [.importing "c"], .managing "c" [.pinning "lib"]]]
  maxImportDepth

def detourLeaf : Descriptor := .managing "leaf" [.importing "a", .importing "b"]

def detourScope : Properties := detourLeaf.scope [] none

theorem detour_plain : ∀ c, (detour 3).Reaches (importsOf [detourLeaf] detourScope) c →
    c.IsPlain := by
  let room : List Coordinate := ["a", "b", "c", "x"].map .bare
  have hstart : importsOf [detourLeaf] detourScope ⊆ room := by decide +kernel
  have hclosed : ∀ c ∈ room, ∀ i ∈ (detour 3).imported? c, i.imports ⊆ room := by decide +kernel
  have hplain : ∀ c ∈ room, c.IsPlain := by decide +kernel
  intro c h
  exact hplain c (h.mem_of_closed hstart hclosed)

theorem lookupManaged_detour :
    ImportCache.empty.Reachable (detour 3) ∧
      (∀ c, (detour 3).Reaches (importsOf [detourLeaf] detourScope) c → c.IsPlain) ∧
      (((detour 3).lookupManaged ⟨"g", "lib"⟩ 3 [detourLeaf] detourScope ⟨[], .empty⟩).1.isSome ↔
        PinnedIn [detourLeaf] detourScope ⟨"g", "lib"⟩ ∨
        ∃ chain i, (detour 3).ImportChain (importsOf [detourLeaf] detourScope) chain i ∧
          chain.length ≤ 3 ∧
          (∀ c ∈ chain.dropLast,
            (detour 3).MeetsAboveLimit (importsOf [detourLeaf] detourScope) c) ∧
          i.Pins ⟨"g", "lib"⟩) :=
  ⟨.empty, detour_plain, lookupManaged_isSome_iff_importChain .empty _ _ _ detour_plain⟩

/-- A chain of two imports is missed under a limit of three, where the longer way visits the shared
descriptor at the limit; under a limit of two it is found. -/
theorem detour_missed :
    (∃ chain i, (detour 3).ImportChain (importsOf [detourLeaf] detourScope) chain i ∧
      chain.length ≤ (detour 3).maxImportDepth ∧ i.Pins ⟨"g", "lib"⟩) ∧
    ((detour 3).lookupManaged ⟨"g", "lib"⟩ (detour 3).maxImportDepth [detourLeaf] detourScope
      ⟨[], .empty⟩).1 = none ∧
    ((detour 2).lookupManaged ⟨"g", "lib"⟩ (detour 2).maxImportDepth [detourLeaf] detourScope
      ⟨[], .empty⟩).1 = some ⟨"1", none⟩ := by
  refine ⟨⟨[.bare "b", .bare "c"], ⟨.managing "c" [.pinning "lib"], []⟩, ?_, by decide, ?_⟩,
    by decide +kernel, by decide +kernel⟩
  · have hb : (detour 3).imported? (.bare "b") = some ⟨.managing "b" [.importing "c"], []⟩ := rfl
    have hc : (detour 3).imported? (.bare "c") = some ⟨.managing "c" [.pinning "lib"], []⟩ := rfl
    exact .cons (by decide +kernel) hb (.last (by decide +kernel) hc)
  · exact ⟨_, List.mem_cons_self, _, List.mem_cons_self, by decide +kernel⟩

end Synthesizer

end Reactor
