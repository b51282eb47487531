import Reactor.Path
import Reactor.Proofs.TextParts

namespace Reactor

namespace Component

/-- A segment stands for this component: names hold no slash and are no dots. -/
def IsProper : Component → Prop
  | root | here => False
  | up => True
  | name s => s ≠ "" ∧ s ≠ "." ∧ s ≠ ".." ∧ '/' ∉ s.toList

instance : DecidablePred IsProper
  | root | here => .isFalse id
  | up => .isTrue trivial
  | name _ => inferInstanceAs (Decidable (_ ∧ _))

theorem isProper_of_ofSegment? {segment : List Char} (hslash : '/' ∉ segment) {c : Component}
    (h : ofSegment? segment = some c) : c.IsProper := by
  fun_cases ofSegment? segment with
  | case1 | case2 => cases h
  | case3 =>
    obtain rfl := Option.some.inj h
    trivial
  | case4 _ hempty hdot hdots =>
    rw [ofSegment?.eq_4 segment hempty hdot hdots] at h
    obtain rfl := Option.some.inj h
    simp only [IsProper, ne_eq, ← String.toList_inj, String.toList_ofList]
    exact ⟨hempty, hdot, hdots, hslash⟩

theorem isProper_of_mem {s : String} (hslash : '/' ∉ s.toList) {c : Char} (hc : c ∈ s.toList)
    (hdot : c ≠ '.') : (name s).IsProper := by
  have hne (dots : String) (h : c ∉ dots.toList) : s ≠ dots := by
    rintro rfl
    exact h hc
  exact ⟨hne "" (by simp), hne "." (by simpa using hdot), hne ".." (by simpa using hdot), hslash⟩

theorem IsProper.ofSegment?_text {c : Component} (h : c.IsProper) :
    ofSegment? c.text.toList = some c := by
  cases c with
  | root | here => cases h
  | up => rfl
  | name s =>
    obtain ⟨hempty, hdot, hdots, -⟩ := h
    simp only [ne_eq, ← String.toList_inj] at hempty hdot hdots
    rw [text, ofSegment?]
    · rw [String.ofList_toList]
    · exact hempty
    · exact hdot
    · exact hdots

theorem IsProper.text_ne {c : Component} (h : c.IsProper) :
    c.text.toList ≠ [] ∧ c.text.toList ≠ ['.'] := by
  cases c with
  | root | here => cases h
  | up => decide
  | name s =>
    obtain ⟨hempty, hdot, -, -⟩ := h
    simp only [ne_eq, ← String.toList_inj] at hempty hdot
    exact ⟨hempty, hdot⟩

theorem IsProper.notMem_text {c : Component} (h : c.IsProper) : '/' ∉ c.text.toList := by
  cases c with
  | root | here => cases h
  | up => decide
  | name s => exact h.2.2.2

end Component

open Component

namespace Path

theorem segmentEnds_components (start : Nat) (segments : List (List Char)) :
    (segmentEnds start segments).map Prod.fst = segments.filterMap ofSegment? := by
  induction segments generalizing start with
  | nil => rfl
  | cons s rest ih =>
    rw [segmentEnds, List.filterMap_cons]
    cases ofSegment? s <;> simp [ih]

variable {p : Path}

theorem components_of_absolute {cs : List Char} (h : p.chars = '/' :: cs) :
    p.components = .root :: (Text.cut '/' cs).filterMap ofSegment? := by
  rw [components, componentEnds, h]
  simp [segmentEnds_components]

theorem components_of_here {segments : List (List Char)}
    (h : Text.cut '/' p.chars = ['.'] :: segments) :
    p.components = .here :: segments.filterMap ofSegment? := by
  rw [components, componentEnds]
  split
  · next hchars => simp [hchars, Text.cut] at h
  · next hchars => simp [hchars, Text.cut] at h
  · next hchars => simp [h, segmentEnds_components]

theorem components_of_relative (habsolute : p.chars.head? ≠ some '/')
    (hhere : (Text.cut '/' p.chars).head? ≠ some ['.']) :
    p.components = (Text.cut '/' p.chars).filterMap ofSegment? := by
  rw [components, componentEnds]
  split
  · next hchars => simp [hchars, Text.cut, ofSegment?]
  · next hchars => simp [hchars] at habsolute
  · next hchars =>
    split
    · next hcut => simp [hcut] at hhere
    · exact segmentEnds_components ..

theorem exists_components (p : Path) :
    ∃ start cs, (start = [] ∨ start = [.root] ∨ start = [.here]) ∧ p.components = start ++ cs ∧
      ∀ c ∈ cs, c.IsProper := by
  have hproper : ∀ (text : List Char) segments, segments ⊆ Text.cut '/' text →
      ∀ c ∈ segments.filterMap ofSegment?, c.IsProper := by
    intro text segments hsegments c hc
    obtain ⟨segment, hsegment, hc⟩ := List.mem_filterMap.mp hc
    exact isProper_of_ofSegment? (Text.notMem_of_mem_cut (hsegments hsegment)) hc
  by_cases habsolute : p.chars.head? = some '/'
  · obtain ⟨cs, hcs⟩ := List.head?_eq_some_iff.mp habsolute
    exact ⟨[.root], _, .inr (.inl rfl), components_of_absolute hcs,
      hproper cs _ (List.Subset.refl _)⟩
  · by_cases hhere : (Text.cut '/' p.chars).head? = some ['.']
    · obtain ⟨segments, hsegments⟩ := List.head?_eq_some_iff.mp hhere
      refine ⟨[.here], _, .inr (.inr rfl), components_of_here hsegments, hproper p.chars _ ?_⟩
      rw [hsegments]
      exact List.subset_cons_self ..
    · exact ⟨[], _, .inl rfl, components_of_relative habsolute hhere,
        hproper p.chars _ (List.Subset.refl _)⟩

section Written

variable {cs : List Component}

theorem cut_intercalate {c : Component} (h : ∀ d ∈ c :: cs, d.IsProper) :
    Text.cut '/' ("/".intercalate ((c :: cs).map Component.text)).toList =
      (c :: cs).map (·.text.toList) := by
  have htext : ("/".intercalate ((c :: cs).map Component.text)).toList =
      ['/'].intercalate ((c :: cs).map (·.text.toList)) := by
    rw [String.toList_intercalate, List.map_map]
    rfl
  have hslash : ∀ segment ∈ (c :: cs).map (·.text.toList), '/' ∉ segment :=
    List.forall_mem_map.mpr fun d hd ↦ (h d hd).notMem_text
  rw [htext, Text.cut_eq_splitOn, List.splitOn_intercalate '/' hslash (by simp)]

theorem filterMap_cut_intercalate (h : ∀ c ∈ cs, c.IsProper) :
    (Text.cut '/' ("/".intercalate (cs.map Component.text)).toList).filterMap ofSegment? = cs := by
  cases cs with
  | nil => rfl
  | cons c rest =>
    rw [cut_intercalate h, List.filterMap_map]
    calc List.filterMap (ofSegment? ∘ fun d ↦ d.text.toList) (c :: rest)
      _ = List.filterMap some (c :: rest) :=
        List.filterMap_congr fun d hd ↦ (h d hd).ofSegment?_text
      _ = c :: rest := List.filterMap_some

theorem components_ofComponents_root (h : ∀ c ∈ cs, c.IsProper) :
    (ofComponents (.root :: cs)).components = .root :: cs := by
  have hchars : (ofComponents (.root :: cs)).chars =
      '/' :: ("/".intercalate (cs.map Component.text)).toList := by
    simp [ofComponents, chars]
  rw [components_of_absolute hchars, filterMap_cut_intercalate h]

theorem components_ofComponents (h : ∀ c ∈ cs, c.IsProper) :
    (ofComponents cs).components = cs := by
  cases cs with
  | nil => rfl
  | cons c rest =>
    have hc : c.IsProper := h c List.mem_cons_self
    have hchars : (ofComponents (c :: rest)).chars =
        ("/".intercalate ((c :: rest).map Component.text)).toList := by
      rw [chars, ofComponents]
      rintro ds heq
      obtain ⟨rfl, -⟩ := List.cons.inj heq
      exact hc
    have hcut : (Text.cut '/' (ofComponents (c :: rest)).chars).head? = some c.text.toList := by
      rw [hchars, cut_intercalate h]
      rfl
    have habsolute : (ofComponents (c :: rest)).chars.head? ≠ some '/' := by
      intro hhead
      obtain ⟨ds, hds⟩ := List.head?_eq_some_iff.mp hhead
      rw [hds, Text.cut, if_pos rfl, List.head?_cons, Option.some.injEq] at hcut
      exact hc.text_ne.1 hcut.symm
    have hhere : (Text.cut '/' (ofComponents (c :: rest)).chars).head? ≠ some ['.'] := by
      rw [hcut, ne_eq, Option.some.injEq]
      exact hc.text_ne.2
    rw [components_of_relative habsolute hhere, hchars, filterMap_cut_intercalate h]

end Written

end Path

end Reactor
