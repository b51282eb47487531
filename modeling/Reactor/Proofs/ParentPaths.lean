import Reactor.Proofs.JoinedPaths

namespace Reactor.Path

open Component

section SegmentEnds

variable {segment : List Char} {rest : List (List Char)}

theorem take_intercalate_length :
    (['/'].intercalate (segment :: rest)).take segment.length = segment := by
  cases rest <;> simp

theorem cut_take_intercalate (hslash : '/' ∉ segment) (hrest : rest ≠ []) (n : Nat) :
    Text.cut '/' ((['/'].intercalate (segment :: rest)).take (segment.length + 1 + n)) =
      segment :: Text.cut '/' ((['/'].intercalate rest).take n) := by
  obtain ⟨next, rest, rfl⟩ := List.exists_cons_of_ne_nil hrest
  have htext : ['/'].intercalate (segment :: next :: rest) =
      segment ++ '/' :: ['/'].intercalate (next :: rest) := by simp
  have htake : (segment ++ '/' :: ['/'].intercalate (next :: rest)).take
        (segment.length + 1 + n) =
      segment ++ '/' :: (['/'].intercalate (next :: rest)).take n := by
    rw [Nat.add_assoc, Nat.add_comm 1 n, List.take_length_add_append, List.take_succ_cons]
  rw [htext, htake, Text.cut_append hslash]

theorem cut_take_segmentEnds {start stop : Nat} {segments : List (List Char)} {c : Component}
    {before after : List (Component × Nat)} (hslash : ∀ s ∈ segments, '/' ∉ s)
    (h : segmentEnds start segments = before ++ (c, stop) :: after) :
    ∃ n, stop = start + n ∧
      (Text.cut '/' ((['/'].intercalate segments).take n)).filterMap ofSegment? =
        before.map Prod.fst ++ [c] := by
  induction segments generalizing start before with
  | nil => simp [segmentEnds] at h
  | cons s rest ih =>
    rw [List.forall_mem_cons] at hslash
    -- what is said about the end of a later segment holds with this segment put before it
    have hlater {before' : List (Component × Nat)}
        (h' : segmentEnds (start + s.length + 1) rest = before' ++ (c, stop) :: after) :
        ∃ n, stop = start + n ∧
          (Text.cut '/' ((['/'].intercalate (s :: rest)).take n)).filterMap ofSegment? =
            (ofSegment? s).toList ++ (before'.map Prod.fst ++ [c]) := by
      have hrest : rest ≠ [] := by
        rintro rfl
        simp [segmentEnds] at h'
      obtain ⟨n, hstop, hcut⟩ := ih hslash.2 h'
      refine ⟨s.length + 1 + n, by omega, ?_⟩
      rw [cut_take_intercalate hslash.1 hrest, List.filterMap_cons, hcut]
      cases ofSegment? s <;> rfl
    rw [segmentEnds] at h
    cases hs : ofSegment? s with
    | none =>
      simp only [hs] at h hlater
      exact hlater h
    | some d =>
      simp only [hs] at h hlater
      cases before with
      | nil =>
        obtain ⟨heq, -⟩ := List.cons.inj h
        cases heq
        refine ⟨s.length, rfl, ?_⟩
        rw [take_intercalate_length, Text.cut_of_notMem hslash.1]
        simp [hs]
      | cons e before =>
        obtain ⟨rfl, htail⟩ := List.cons.inj h
        exact hlater htail

end SegmentEnds

variable {p : Path}

theorem components_eq_root_cons (hp : p.isAbsolute = true) : p.components = .root :: p.steps := by
  rw [components_eq, start, if_pos hp]
  rfl

theorem parent?_of_steps_eq_nil (hp : p.isAbsolute = true) (hsteps : p.steps = []) :
    p.parent? = none := by
  have hends : p.componentEnds.map Prod.fst = [.root] := by
    rw [← hsteps]
    exact components_eq_root_cons hp
  obtain ⟨⟨c, stop⟩, hends, hc⟩ := List.map_eq_singleton_iff.mp hends
  obtain rfl : c = .root := hc
  rw [parent?, hends]
  rfl

theorem isProper_of_mem_steps {c : Component} (hc : c ∈ p.steps) : c.IsProper := by
  obtain ⟨segment, hsegment, hc⟩ := List.mem_filterMap.mp hc
  exact isProper_of_ofSegment? (Text.notMem_of_mem_cut hsegment) hc

theorem root_notMem_steps : Component.root ∉ p.steps := fun h ↦ isProper_of_mem_steps h

theorem parent?_of_componentEnds {front : List (Component × Nat)} {c last : Component}
    {stop stop' : Nat} (h : p.componentEnds = front ++ [(c, stop), (last, stop')])
    (hlast : last ≠ .root) : p.parent? = some ⟨String.ofList (p.chars.take stop)⟩ := by
  rw [parent?, h, List.reverse_append]
  cases last with
  | root => contradiction
  | here | up | name => rfl

theorem exists_parent? (hp : p.isAbsolute = true) (hsteps : p.steps ≠ []) :
    ∃ q, p.parent? = some q ∧ q.isAbsolute = true ∧ q.components = p.components.dropLast := by
  obtain ⟨cs, hchars⟩ := List.head?_eq_some_iff.mp (beq_iff_eq.mp hp)
  have hends : p.componentEnds = (.root, 1) :: segmentEnds 1 (Text.cut '/' cs) := by
    rw [componentEnds, hchars]
    rfl
  have hfst : (segmentEnds 1 (Text.cut '/' cs)).map Prod.fst = p.steps := by
    rw [segmentEnds_components, steps, hchars, Text.cut, if_pos rfl]
    rfl
  have hne : segmentEnds 1 (Text.cut '/' cs) ≠ [] := by
    intro hnil
    rw [hnil] at hfst
    exact hsteps hfst.symm
  obtain ⟨front, ⟨last, stop⟩, hfront⟩ := (List.eq_nil_or_concat' _).resolve_left hne
  have hsplit : p.steps = front.map Prod.fst ++ [last] := by
    rw [← hfst, hfront, List.map_append]
    rfl
  have hlast : last ≠ .root := by
    rintro rfl
    exact root_notMem_steps (hsplit ▸ List.mem_append_right _ (List.mem_singleton_self _))
  -- the component before the last one, which may be the root, ends where the parent does
  obtain ⟨before, c, n, hbefore, hcut⟩ : ∃ before c n,
      (Component.root, 1) :: front = before ++ [(c, 1 + n)] ∧
        (Text.cut '/' (cs.take n)).filterMap ofSegment? = front.map Prod.fst := by
    rcases List.eq_nil_or_concat' front with rfl | ⟨before, ⟨c, stop'⟩, rfl⟩
    · exact ⟨[], .root, 0, rfl, rfl⟩
    · rw [List.append_assoc, List.singleton_append] at hfront
      obtain ⟨n, rfl, hcut⟩ :=
        cut_take_segmentEnds (fun _ hs ↦ Text.notMem_of_mem_cut hs) hfront
      rw [Text.intercalate_cut] at hcut
      exact ⟨(.root, 1) :: before, c, n, rfl, by rw [hcut, List.map_append]; rfl⟩
  have htwo : p.componentEnds = before ++ [(c, 1 + n), (last, stop)] := by
    rw [hends, hfront, ← List.cons_append, hbefore, List.append_assoc]
    rfl
  have hparent : p.parent? = some ⟨String.ofList (p.chars.take (1 + n))⟩ :=
    parent?_of_componentEnds htwo hlast
  have htext : chars ⟨String.ofList (p.chars.take (1 + n))⟩ = '/' :: cs.take n := by
    rw [chars, String.toList_ofList, hchars, Nat.add_comm, List.take_succ_cons]
  refine ⟨_, hparent, by rw [isAbsolute, htext]; rfl, ?_⟩
  rw [components_of_absolute htext, hcut, components_eq_root_cons hp, hsplit, ← List.cons_append,
    List.dropLast_concat]

theorem isAbsolute_of_parent? (hp : p.isAbsolute = true) {q : Path} (h : p.parent? = some q) :
    q.isAbsolute = true := by
  by_cases hsteps : p.steps = []
  · rw [parent?_of_steps_eq_nil hp hsteps] at h
    cases h
  · obtain ⟨parent, hparent, habsolute, -⟩ := exists_parent? hp hsteps
    rwa [← Option.some.inj (hparent.symm.trans h)]

theorem map_components_parent? (hp : p.isAbsolute = true) :
    p.parent?.map components =
      if p.components = [.root] then none else some p.components.dropLast := by
  by_cases hsteps : p.steps = []
  · rw [parent?_of_steps_eq_nil hp hsteps, components_eq_root_cons hp, hsteps, if_pos rfl]
    rfl
  · obtain ⟨q, hq, -, hcomponents⟩ := exists_parent? hp hsteps
    have hne : p.components ≠ [.root] := by
      rw [components_eq_root_cons hp]
      exact fun h ↦ hsteps (List.cons.inj h).2
    rw [hq, if_neg hne, Option.map_some, hcomponents]

end Reactor.Path
