import Mathlib.Data.List.Infix
import Mathlib.Data.List.TakeWhile
import Reactor.Text.Blank

namespace Reactor.Text

theorem dropPrefix?_eq_some_iff {start cs rest : List Char} :
    dropPrefix? start cs = some rest ↔ cs = start ++ rest := by
  rw [dropPrefix?, Option.ite_none_right_eq_some, Option.some.injEq, List.isPrefixOf_iff_prefix]
  constructor
  · rintro ⟨hstart, rfl⟩
    exact List.prefix_iff_eq_append.mp hstart |>.symm
  · rintro rfl
    exact ⟨List.prefix_append start rest, List.drop_left⟩

theorem dropSuffix?_eq_some_iff {ending cs rest : List Char} :
    dropSuffix? ending cs = some rest ↔ cs = rest ++ ending := by
  rw [dropSuffix?, Option.ite_none_right_eq_some, Option.some.injEq, List.isSuffixOf_iff_suffix]
  constructor
  · rintro ⟨hend, rfl⟩
    exact List.suffix_iff_eq_append.mp hend |>.symm
  · rintro rfl
    refine ⟨List.suffix_append rest ending, ?_⟩
    rw [List.length_append, Nat.add_sub_cancel, List.take_left]

theorem occursIn_iff {part cs : List Char} : occursIn part cs = true ↔ part <:+: cs := by
  induction cs with
  | nil => simp [occursIn]
  | cons c cs ih =>
    rw [occursIn, Bool.or_eq_true, List.isPrefixOf_iff_prefix, ih, List.infix_cons_iff]

variable {separator : Char}

theorem cut_eq_splitOn (separator : Char) (cs : List Char) :
    cut separator cs = cs.splitOn separator := by
  induction cs with
  | nil => rfl
  | cons c cs ih =>
    obtain ⟨first, rest, hsplit⟩ := List.exists_cons_of_ne_nil (List.splitOn_ne_nil separator cs)
    rw [cut, List.splitOn_cons_eq_if_modifyHead, ih, hsplit]
    by_cases hc : c = separator <;> simp [hc]

theorem flatten_cut (separator : Char) (cs : List Char) :
    (cut separator cs).flatten = cs.filter (· ≠ separator) := by
  induction cs with
  | nil => rfl
  | cons c cs ih =>
    obtain ⟨first, rest, hcut⟩ := List.exists_cons_of_ne_nil (cut_ne_nil separator cs)
    rw [hcut] at ih
    rw [cut, hcut]
    by_cases hc : c = separator <;> simp_all

theorem mem_and_ne_of_mem_cut {c : Char} {piece cs : List Char} (h : piece ∈ cut separator cs)
    (hc : c ∈ piece) : c ∈ cs ∧ c ≠ separator := by
  have hflat : c ∈ (cut separator cs).flatten := List.mem_flatten_of_mem h hc
  rw [flatten_cut, List.mem_filter] at hflat
  simpa using hflat

theorem notMem_of_mem_cut {piece cs : List Char} (h : piece ∈ cut separator cs) :
    separator ∉ piece :=
  fun hmem ↦ (mem_and_ne_of_mem_cut h hmem).2 rfl

theorem mem_of_mem_cut {c : Char} {piece cs : List Char} (h : piece ∈ cut separator cs)
    (hc : c ∈ piece) : c ∈ cs :=
  (mem_and_ne_of_mem_cut h hc).1

theorem cut_append_cut (before after : List Char) :
    cut separator (before ++ separator :: after) =
      cut separator before ++ cut separator after := by
  simp only [cut_eq_splitOn, List.splitOn_append_cons_self]

theorem cut_append_cons {c : Char} (hc : c ≠ separator) (before after : List Char) :
    cut separator (before ++ c :: after) =
      (cut separator before).dropLast ++
        ((cut separator before).getLastD [] ++ c :: (cut separator after).headD []) ::
          (cut separator after).tail := by
  obtain ⟨first, rest, hafter⟩ := List.exists_cons_of_ne_nil (cut_ne_nil separator after)
  induction before with
  | nil => simp [cut, hc, hafter]
  | cons d before ih =>
    obtain ⟨piece, pieces, hbefore⟩ := List.exists_cons_of_ne_nil (cut_ne_nil separator before)
    rw [List.cons_append, cut, cut, ih, hbefore]
    by_cases hd : d = separator
    · simp [hd]
    · cases pieces <;> simp [hd]

theorem mem_of_mem_cut_append_cons {c : Char} (hc : c ≠ separator) {piece before after : List Char}
    (h : piece ∈ cut separator (before ++ c :: after)) :
    piece ∈ cut separator before ∨ piece ∈ cut separator after ∨ c ∈ piece := by
  rw [cut_append_cons hc] at h
  rcases List.mem_append.mp h with hbefore | h
  · exact .inl (List.dropLast_subset _ hbefore)
  rcases List.mem_cons.mp h with rfl | hafter
  · exact .inr (.inr (List.mem_append_right _ List.mem_cons_self))
  · exact .inr (.inl (List.mem_of_mem_tail hafter))

theorem intercalate_cut (cs : List Char) : [separator].intercalate (cut separator cs) = cs := by
  rw [cut_eq_splitOn, List.intercalate_splitOn]

theorem getLastD_cut {after : List Char} (h : separator ∉ after) (before : List Char) :
    (cut separator (before ++ separator :: after)).getLastD [] = after := by
  rw [cut_append_cut, cut_of_notMem h, List.getLastD_eq_getLast?, List.getLast?_append]
  rfl

theorem exists_last_separator {cs : List Char} (h : separator ∈ cs) :
    ∃ before after, cs = before ++ separator :: after ∧ separator ∉ after := by
  obtain ⟨after, before, hreverse, hafter⟩ := List.eq_append_cons_of_mem (List.mem_reverse.mpr h)
  refine ⟨before.reverse, after.reverse, ?_, by simpa using hafter⟩
  rw [← List.reverse_reverse cs, hreverse]
  simp

section EmptyPieces

variable {c : Char} {cs : List Char}

theorem getLast?_cons_eq_some_iff :
    (c :: cs).getLast? = some separator ↔
      (cs = [] ∧ c = separator) ∨ cs.getLast? = some separator := by
  cases cs <;> simp

theorem pair_prefix_cons_iff :
    [separator, separator] <+: c :: cs ↔ c = separator ∧ cs.head? = some separator := by
  cases cs <;> simp [List.cons_prefix_cons, eq_comm]

theorem head?_cut_eq_nil_iff :
    (cut separator cs).head? = some [] ↔ cs = [] ∨ cs.head? = some separator := by
  cases cs with
  | nil => simp [cut]
  | cons c cs =>
    obtain ⟨first, rest, hcut⟩ := List.exists_cons_of_ne_nil (cut_ne_nil separator cs)
    rw [cut, hcut]
    by_cases hc : c = separator <;> simp [hc]

theorem nil_mem_tail_cut_iff :
    [] ∈ (cut separator cs).tail ↔
      cs.getLast? = some separator ∨ [separator, separator] <:+: cs := by
  induction cs with
  | nil => simp [cut]
  | cons c cs ih =>
    have hhead : (cut separator cs).head? = some [] ↔ cs = [] ∨ cs.head? = some separator :=
      head?_cut_eq_nil_iff
    obtain ⟨first, rest, hcut⟩ := List.exists_cons_of_ne_nil (cut_ne_nil separator cs)
    rw [hcut, List.tail_cons] at ih
    rw [hcut, List.head?_cons, Option.some.injEq] at hhead
    rw [cut, hcut, List.infix_cons_iff, getLast?_cons_eq_some_iff, pair_prefix_cons_iff]
    by_cases hc : c = separator
    · -- the piece that was first stands behind a separator now
      rw [if_pos hc, List.tail_cons, List.mem_cons, eq_comm, hhead, ih]
      simp only [hc, and_true, true_and]
      grind
    · simp [hc, ih]

/-- A piece is empty where the text is, where a separator stands at an end of it, or where two stand
in a row. -/
theorem nil_mem_cut_iff :
    [] ∈ cut separator cs ↔
      cs = [] ∨ cs.head? = some separator ∨ cs.getLast? = some separator ∨
        [separator, separator] <:+: cs := by
  have hhead : (cut separator cs).head? = some [] ↔ cs = [] ∨ cs.head? = some separator :=
    head?_cut_eq_nil_iff
  have htail : [] ∈ (cut separator cs).tail ↔
      cs.getLast? = some separator ∨ [separator, separator] <:+: cs := nil_mem_tail_cut_iff
  obtain ⟨first, rest, hcut⟩ := List.exists_cons_of_ne_nil (cut_ne_nil separator cs)
  rw [hcut, List.head?_cons, Option.some.injEq] at hhead
  rw [hcut, List.tail_cons] at htail
  rw [hcut, List.mem_cons, eq_comm, hhead, htail, or_assoc]

end EmptyPieces

theorem cutFirst?_eq_some_iff {cs before after : List Char} :
    cutFirst? separator cs = some (before, after) ↔
      cs = before ++ separator :: after ∧ separator ∉ before := by
  constructor
  · intro h
    induction cs generalizing before with
    | nil => cases h
    | cons c cs ih =>
      rw [cutFirst?] at h
      split at h
      · next hc =>
        cases h
        exact ⟨by rw [hc, List.nil_append], List.not_mem_nil⟩
      · next hc =>
        obtain ⟨⟨before, after⟩, hrest, hp⟩ := Option.map_eq_some_iff.mp h
        cases hp
        obtain ⟨rfl, hbefore⟩ := ih hrest
        exact ⟨rfl, List.not_mem_cons_of_ne_of_not_mem (Ne.symm hc) hbefore⟩
  · rintro ⟨rfl, hbefore⟩
    induction before with
    | nil => rw [List.nil_append, cutFirst?, if_pos rfl]
    | cons c before ih =>
      rw [List.mem_cons, not_or] at hbefore
      rw [List.cons_append, cutFirst?, if_neg (Ne.symm hbefore.1), ih hbefore.2]
      rfl

section Trim

variable (as : List Char) {bs : List Char}

theorem filter_dropWhile_isBlank :
    (as.dropWhile isBlank).filter (!isBlank ·) = as.filter (!isBlank ·) := by
  have htaken : (as.takeWhile isBlank).filter (!isBlank ·) = [] := by
    rw [List.filter_eq_nil_iff]
    intro c hc
    simpa using List.mem_takeWhile_imp hc
  conv_rhs => rw [← List.takeWhile_append_dropWhile (p := isBlank) (l := as), List.filter_append,
    htaken, List.nil_append]

theorem filter_trimList : (trimList as).filter (!isBlank ·) = as.filter (!isBlank ·) := by
  rw [trimList, List.filter_reverse, filter_dropWhile_isBlank, List.filter_reverse,
    List.reverse_reverse, filter_dropWhile_isBlank]

theorem trimList_append_of_blank (h : ∀ c ∈ bs, isBlank c) :
    trimList (as ++ bs) = trimList as := by
  rw [trimList, trimList, List.dropWhile_append]
  split
  · next hempty =>
    have hbs : bs.dropWhile isBlank = [] := List.dropWhile_eq_nil_iff.mpr h
    rw [hbs, List.isEmpty_iff.mp hempty]
  · rw [List.reverse_append, List.dropWhile_append_of_pos (by simpa using h)]

theorem trimList_append_eq_iff :
    trimList (as ++ bs) = trimList as ↔ ∀ c ∈ bs, isBlank c := by
  refine ⟨fun heq ↦ ?_, trimList_append_of_blank as⟩
  have hfilter := congrArg (List.filter (!isBlank ·)) heq
  rw [filter_trimList, filter_trimList, List.filter_append] at hfilter
  simpa using hfilter

theorem trimList_eq_nil_iff : trimList as = [] ↔ ∀ c ∈ as, isBlank c :=
  trimList_append_eq_iff []

end Trim
end Reactor.Text
