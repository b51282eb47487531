import Reactor.Proofs.Components

namespace Reactor.Path

open Component

variable (p : Path) {q root : Path} {pieces : List String}

def start : List Component :=
  if p.isAbsolute then [.root]
  else if (Text.cut '/' p.chars).head? = some ['.'] then [.here] else []

def steps : List Component := (Text.cut '/' p.chars).filterMap ofSegment?

def descend (pieces : List String) : Path := pieces.foldl (fun p piece ↦ p.join ⟨piece⟩) p

theorem components_eq : p.components = p.start ++ p.steps := by
  rw [start, steps]
  by_cases habsolute : p.isAbsolute = true
  · obtain ⟨cs, hcs⟩ := List.head?_eq_some_iff.mp (beq_iff_eq.mp habsolute)
    rw [if_pos habsolute, components_of_absolute hcs, hcs, Text.cut, if_pos rfl]
    rfl
  · have hrelative : p.chars.head? ≠ some '/' := fun h ↦ habsolute (beq_iff_eq.mpr h)
    rw [if_neg habsolute]
    by_cases hhere : (Text.cut '/' p.chars).head? = some ['.']
    · obtain ⟨segments, hsegments⟩ := List.head?_eq_some_iff.mp hhere
      rw [if_pos hhere, components_of_here hsegments, hsegments]
      rfl
    · rw [if_neg hhere, components_of_relative hrelative hhere]
      rfl

theorem up_notMem_start : Component.up ∉ p.start := by
  rw [start]
  split
  · decide
  · split <;> decide

theorem up_mem_steps : Component.up ∈ p.steps ↔ ['.', '.'] ∈ Text.cut '/' p.chars := by
  rw [steps, List.mem_filterMap]
  constructor
  · rintro ⟨segment, hsegment, hup⟩
    fun_cases ofSegment? segment with
    | case1 | case2 => cases hup
    | case3 => exact hsegment
    | case4 _ hempty hdot hdots =>
      rw [ofSegment?.eq_4 segment hempty hdot hdots] at hup
      cases hup
  · intro h
    exact ⟨_, h, rfl⟩

theorem join_of_absolute (hq : q.isAbsolute = true) : p.join q = q := if_pos hq

theorem join_of_empty (hp : p.text = "") (hq : q.isAbsolute = false) : p.join q = q := by
  simp [join, hp, hq]

variable {p}

/-- A join puts one slash between two paths, also where the first one ends with a slash. -/
theorem chars_join (hp : p.text ≠ "") (hq : q.isAbsolute = false) :
    ∃ base, (p.join q).chars = base ++ '/' :: q.chars ∧
      (p.chars = base ∧ base ≠ [] ∨ p.chars = base ++ ['/']) := by
  have hchars : p.chars ≠ [] := by simpa [chars] using hp
  by_cases hslash : p.chars.getLast? = some '/'
  · obtain ⟨base, hbase⟩ := List.getLast?_eq_some_iff.mp hslash
    refine ⟨base, ?_, .inr hbase⟩
    have hjoin : p.join q = ⟨p.text ++ q.text⟩ := by simp [join, hq, hslash]
    rw [hjoin, chars, String.toList_append]
    rw [chars] at hbase
    rw [hbase, List.append_assoc]
    rfl
  · refine ⟨p.chars, ?_, .inl ⟨rfl, hchars⟩⟩
    have hjoin : p.join q = ⟨p.text ++ "/" ++ q.text⟩ := by simp [join, hq, hp, hslash]
    rw [hjoin, chars, String.toList_append, String.toList_append, List.append_assoc]
    rfl

theorem join_ne_empty (hp : p.text ≠ "") (hq : q.isAbsolute = false) : (p.join q).text ≠ "" := by
  obtain ⟨base, hjoin, -⟩ := chars_join hp hq
  intro hempty
  rw [chars, hempty] at hjoin
  simp at hjoin

theorem steps_join (hq : q.isAbsolute = false) : (p.join q).steps = p.steps ++ q.steps := by
  by_cases hp : p.text = ""
  · have hsteps : p.steps = [] := by simp [steps, chars, hp, Text.cut, ofSegment?]
    rw [join_of_empty p hp hq, hsteps, List.nil_append]
  · obtain ⟨base, hjoin, ⟨hbase, -⟩ | hbase⟩ := chars_join hp hq
    · rw [steps, hjoin, Text.cut_append_cut, List.filterMap_append, ← hbase]
      rfl
    · rw [steps, hjoin, Text.cut_append_cut, List.filterMap_append, steps, hbase,
        Text.cut_append_cut, List.filterMap_append]
      simp [steps, Text.cut, ofSegment?]

theorem head?_join (hp : p.text ≠ "") (hq : q.isAbsolute = false) :
    (p.join q).chars.head? = p.chars.head? := by
  obtain ⟨base, hjoin, ⟨hbase, hne⟩ | hbase⟩ := chars_join hp hq
  · rw [hjoin, hbase, List.head?_append_of_ne_nil _ hne]
  · rw [hjoin, hbase]
    cases base <;> rfl

theorem head?_cut_join (hp : p.text ≠ "") (hq : q.isAbsolute = false) :
    (Text.cut '/' (p.join q).chars).head? = (Text.cut '/' p.chars).head? := by
  obtain ⟨base, hjoin, hbase⟩ := chars_join hp hq
  rw [hjoin, Text.cut_append_cut, List.head?_append_of_ne_nil _ (Text.cut_ne_nil _ _)]
  rcases hbase with ⟨hbase, -⟩ | hbase
  · rw [hbase]
  · rw [hbase, Text.cut_append_cut, List.head?_append_of_ne_nil _ (Text.cut_ne_nil _ _)]

theorem start_join (hp : p.text ≠ "") (hq : q.isAbsolute = false) : (p.join q).start = p.start := by
  rw [start, start, isAbsolute, isAbsolute, head?_join hp hq, head?_cut_join hp hq]

theorem isAbsolute_join (hp : p.isAbsolute = true) : (p.join q).isAbsolute = true := by
  by_cases hq : q.isAbsolute = true
  · rw [join_of_absolute p hq, hq]
  · rw [Bool.not_eq_true] at hq
    have hne : p.text ≠ "" := by
      intro hempty
      simp [isAbsolute, chars, hempty] at hp
    rw [isAbsolute, head?_join hne hq]
    exact hp

theorem components_join (hp : p.text ≠ "") (hq : q.isAbsolute = false) :
    (p.join q).components = p.components ++ q.steps := by
  rw [components_eq, start_join hp hq, steps_join hq, ← List.append_assoc, ← components_eq]

section Names

theorem isAbsolute_eq_false_iff {s : String} :
    (⟨s⟩ : Path).isAbsolute = false ↔ s.toList.head? ≠ some '/' :=
  beq_eq_false_iff_ne

variable {s : String} (h : (Component.name s).IsProper)

include h

theorem isAbsolute_of_isProper : (⟨s⟩ : Path).isAbsolute = false := by
  rw [isAbsolute_eq_false_iff]
  intro hslash
  exact h.notMem_text (List.mem_of_mem_head? hslash)

theorem cut_of_isProper : Text.cut '/' s.toList = [s.toList] := Text.cut_of_notMem h.notMem_text

theorem steps_of_isProper : (⟨s⟩ : Path).steps = [.name s] := by
  have hsegment : ofSegment? s.toList = some (.name s) := h.ofSegment?_text
  simp [steps, chars, cut_of_isProper h, hsegment]

theorem components_join_name (p : Path) : (p.join ⟨s⟩).components = p.components ++ [.name s] := by
  have hrelative := isAbsolute_of_isProper h
  by_cases hp : p.text = ""
  · have hcut : (Text.cut '/' s.toList).head? ≠ some ['.'] := by
      rw [cut_of_isProper h, List.head?_cons, ne_eq, Option.some.injEq]
      exact h.text_ne.2
    have hstart : (⟨s⟩ : Path).start = [] := by simp [start, hrelative, chars, hcut]
    have hnone : p.components = [] := by
      obtain ⟨text⟩ := p
      subst hp
      rfl
    rw [join_of_empty p hp hrelative, components_eq, hstart, hnone, steps_of_isProper h]
  · rw [components_join hp hrelative, steps_of_isProper h]

end Names

section Descend

theorem descend_cons (piece : String) :
    p.descend (piece :: pieces) = (p.join ⟨piece⟩).descend pieces := rfl

theorem components_descend (p : Path) (h : ∀ piece ∈ pieces, (Component.name piece).IsProper) :
    (p.descend pieces).components = p.components ++ pieces.map .name := by
  induction pieces generalizing p with
  | nil => exact (List.append_nil _).symm
  | cons piece rest ih =>
    rw [List.forall_mem_cons] at h
    rw [descend_cons, ih _ h.2, components_join_name h.1, List.append_assoc]
    rfl

theorem steps_descend (h : ∀ piece ∈ pieces, (⟨piece⟩ : Path).isAbsolute = false) :
    (p.descend pieces).steps = p.steps ++ pieces.flatMap fun piece ↦ steps ⟨piece⟩ := by
  induction pieces generalizing p with
  | nil => exact (List.append_nil _).symm
  | cons piece rest ih =>
    rw [List.forall_mem_cons] at h
    rw [descend_cons, ih h.2, steps_join h.1, List.append_assoc, List.flatMap_cons]

theorem start_descend (hp : p.text ≠ "")
    (h : ∀ piece ∈ pieces, (⟨piece⟩ : Path).isAbsolute = false) :
    (p.descend pieces).start = p.start := by
  induction pieces generalizing p with
  | nil => rfl
  | cons piece rest ih =>
    rw [List.forall_mem_cons] at h
    rw [descend_cons, ih (join_ne_empty hp h.1) h.2, start_join hp h.1]

theorem isAbsolute_descend (hp : p.isAbsolute = true) : (p.descend pieces).isAbsolute = true := by
  induction pieces generalizing p with
  | nil => exact hp
  | cons piece rest ih => exact ih (isAbsolute_join hp)

theorem descend_of_absolute (before after : List String) {piece : String}
    (h : (⟨piece⟩ : Path).isAbsolute = true) :
    p.descend (before ++ piece :: after) = (⟨piece⟩ : Path).descend after := by
  have hjoin : (p.descend before).join ⟨piece⟩ = ⟨piece⟩ := join_of_absolute _ h
  rw [descend, List.foldl_append, List.foldl_cons]
  exact congrArg (fun q ↦ q.descend after) hjoin

end Descend

end Reactor.Path
