import Mathlib.Data.List.Nodup
import Reactor.Files.Memory
import Reactor.Proofs.ParentPaths

namespace Reactor.Memory

open Reactor.Path

variable {m : Memory} {p q place : Path} {entry : MemoryEntry}
  {entries : List (Path × MemoryEntry)}

section Entries

theorem find_cons (e : Path × MemoryEntry) :
    find q (e :: entries) = if e.1.components = q.components then some e.2 else find q entries := by
  by_cases h : e.1.components = q.components <;> simp [find, h]

theorem find_put :
    find q (put p entry entries) =
      if q.components = p.components then some entry else find q entries := by
  induction entries with
  | nil =>
    rw [put, find_cons]
    by_cases hq : q.components = p.components
    · rw [if_pos hq, if_pos hq.symm]
    · rw [if_neg hq, if_neg (Ne.symm hq)]
  | cons e rest ih =>
    rw [put]
    by_cases he : e.1.components = p.components
    · rw [if_pos he, find_cons, find_cons, he]
      by_cases hq : p.components = q.components
      · rw [if_pos hq, if_pos hq.symm]
      · rw [if_neg hq, if_neg (Ne.symm hq), if_neg hq]
    · rw [if_neg he, find_cons, find_cons, ih]
      by_cases hq : e.1.components = q.components
      · rw [if_pos hq, if_pos hq, if_neg fun h ↦ he (hq.trans h)]
      · rw [if_neg hq, if_neg hq]

theorem find_isSome_iff :
    (find q entries).isSome = true ↔ ∃ e ∈ entries, e.1.components = q.components := by
  rw [find, Option.isSome_map, List.find?_isSome]
  simp

theorem map_fst_put :
    (put p entry entries).map Prod.fst =
      if (find p entries).isSome then entries.map Prod.fst else entries.map Prod.fst ++ [p] := by
  induction entries with
  | nil => rfl
  | cons e rest ih =>
    rw [put, find_cons]
    by_cases he : e.1.components = p.components
    · rw [if_pos he, if_pos he]
      rfl
    · rw [if_neg he, if_neg he, List.map_cons, ih]
      split <;> rfl

structure Tidy (entries : List (Path × MemoryEntry)) : Prop where
  nodup : ((entries.map Prod.fst).map components).Nodup
  absolute : ∀ e ∈ entries, e.1.isAbsolute = true

theorem Tidy.put (h : Tidy entries) (hp : p.isAbsolute = true) (entry : MemoryEntry) :
    Tidy (put p entry entries) := by
  have hpaths : (Memory.put p entry entries).map Prod.fst =
      if (find p entries).isSome then entries.map Prod.fst else entries.map Prod.fst ++ [p] :=
    map_fst_put
  constructor
  · rw [hpaths]
    split
    · exact h.nodup
    · next hnew =>
      rw [find_isSome_iff] at hnew
      rw [List.map_append, List.map_singleton, List.nodup_append_comm, List.singleton_append,
        List.nodup_cons]
      refine ⟨?_, h.nodup⟩
      intro hmem
      obtain ⟨path, hpath, hsame⟩ := List.mem_map.mp hmem
      obtain ⟨e, he, rfl⟩ := List.mem_map.mp hpath
      exact hnew ⟨e, he, hsame⟩
  · intro e he
    have hmem : e.1 ∈ (Memory.put p entry entries).map Prod.fst := List.mem_map_of_mem he
    have hknown : e.1 ∈ entries.map Prod.fst → e.1.isAbsolute = true := by
      intro hmem
      obtain ⟨e', he', hpath⟩ := List.mem_map.mp hmem
      exact hpath ▸ h.absolute e' he'
    rw [hpaths] at hmem
    split at hmem
    · exact hknown hmem
    · rcases List.mem_append.mp hmem with hmem | hmem
      · exact hknown hmem
      · exact List.mem_singleton.mp hmem ▸ hp

theorem Tidy.find_eq_some_iff (h : Tidy entries) :
    find q entries = some entry ↔ ∃ path, (path, entry) ∈ entries ∧ path.Same q := by
  constructor
  · intro hfind
    obtain ⟨⟨path, e⟩, hentry, rfl⟩ := Option.map_eq_some_iff.mp hfind
    have hsame : path.components = q.components := by simpa using List.find?_some hentry
    exact ⟨path, List.mem_of_find?_eq_some hentry, hsame⟩
  · rintro ⟨path, hmem, hsame⟩
    obtain ⟨e, he⟩ := Option.isSome_iff_exists.mp (find_isSome_iff.mpr ⟨_, hmem, hsame⟩)
    obtain ⟨⟨path', e'⟩, hfind, rfl⟩ := Option.map_eq_some_iff.mp he
    have hsame' : path'.components = q.components := by simpa using List.find?_some hfind
    have hnodup := h.nodup
    rw [List.map_map] at hnodup
    have heq := List.inj_on_of_nodup_map hnodup (List.mem_of_find?_eq_some hfind) hmem
      (hsame'.trans hsame.symm)
    rw [he, (Prod.mk.inj heq).2]

theorem find_congr (h : p.Same q) : find p entries = find q entries := by
  rw [find, find, h]

end Entries

section Ensure

theorem isAbsolute_of_mem_placesUpTo (hp : p.isAbsolute = true) (h : q ∈ placesUpTo p) :
    q.isAbsolute = true := by
  obtain ⟨i, -, rfl⟩ := List.mem_map.mp h
  rw [components_eq_root_cons hp, List.take_succ_cons, isAbsolute, chars, ofComponents,
    String.toList_append]
  rfl

theorem mem_placesUpTo_iff (hp : p.isAbsolute = true) (hq : q.isAbsolute = true) :
    (∃ r ∈ placesUpTo p, r.components = q.components) ↔ q.components <+: p.components := by
  have hcomponents (i : Nat) : (ofComponents (p.components.take (i + 1))).components =
      p.components.take (i + 1) := by
    rw [components_eq_root_cons hp, List.take_succ_cons]
    exact components_ofComponents_root fun c hc ↦ isProper_of_mem_steps (List.mem_of_mem_take hc)
  constructor
  · rintro ⟨r, hr, hsame⟩
    obtain ⟨i, -, rfl⟩ := List.mem_map.mp hr
    rw [← hsame, hcomponents]
    exact List.take_prefix _ _
  · intro habove
    have hlength : q.components.length = q.steps.length + 1 := by
      rw [components_eq_root_cons hq, List.length_cons]
    have hle := habove.length_le
    have hmem : q.steps.length ∈ List.range p.components.length :=
      List.mem_range.mpr (by omega)
    refine ⟨_, List.mem_map_of_mem hmem, ?_⟩
    rw [hcomponents, ← hlength]
    exact (List.prefix_iff_eq_take.mp habove).symm

def ensureOne (entries : List (Path × MemoryEntry)) (p : Path) : List (Path × MemoryEntry) :=
  if (find p entries).isSome then entries else put p .directory entries

theorem ensure_eq (p : Path) (entries : List (Path × MemoryEntry)) :
    ensure p entries = (placesUpTo p).foldl ensureOne entries := rfl

theorem find_ensureOne :
    find q (ensureOne entries p) =
      (find q entries).or (if q.components = p.components then some .directory else none) := by
  rw [ensureOne]
  by_cases hq : q.components = p.components
  · rw [← find_congr (show q.Same p from hq), if_pos hq]
    cases hfind : find q entries with
    | none => simp [find_put, hq]
    | some e => simp [hfind]
  · rw [if_neg hq, Option.or_none]
    split
    · rfl
    · rw [find_put, if_neg hq]

theorem find_foldl_ensureOne (places : List Path) :
    find q (places.foldl ensureOne entries) =
      (find q entries).or
        (if ∃ r ∈ places, r.components = q.components then some .directory else none) := by
  induction places generalizing entries with
  | nil => simp
  | cons r rest ih =>
    rw [List.foldl_cons, ih, find_ensureOne, Option.or_assoc]
    congr 1
    by_cases hr : r.components = q.components
    · simp [hr]
    · simp [hr, Ne.symm hr]

/-- A place on the way that holds something keeps it, any other becomes a directory. -/
theorem find_ensure (hp : p.isAbsolute = true) (hq : q.isAbsolute = true) :
    find q (ensure p entries) =
      (find q entries).or (if q.components <+: p.components then some .directory else none) := by
  simp only [ensure_eq, find_foldl_ensureOne, mem_placesUpTo_iff hp hq]

theorem Tidy.ensure (h : Tidy entries) (hp : p.isAbsolute = true) :
    Tidy (Memory.ensure p entries) := by
  have hplaces : ∀ r ∈ placesUpTo p, r.isAbsolute = true :=
    fun _ hr ↦ isAbsolute_of_mem_placesUpTo hp hr
  rw [ensure_eq]
  generalize placesUpTo p = places at hplaces
  induction places generalizing entries with
  | nil => exact h
  | cons r rest ih =>
    rw [List.forall_mem_cons] at hplaces
    refine ih ?_ hplaces.2
    rw [ensureOne]
    split
    · exact h
    · exact h.put hplaces.1 _

end Ensure

section Add

theorem find_above (hplace : place.isAbsolute = true) (hq : q.isAbsolute = true)
    (hne : q.components ≠ place.components) :
    find q (match place.parent? with
      | some parent => ensure parent entries
      | none => entries) =
      (find q entries).or
        (if q.components <+: place.components then some .directory else none) := by
  by_cases hsteps : place.steps = []
  · have hnot : ¬ q.components <+: place.components := by
      rw [components_eq_root_cons hplace, hsteps, components_eq_root_cons hq] at hne ⊢
      rw [List.cons_prefix_cons, List.prefix_nil]
      rintro ⟨-, hnil⟩
      exact hne (by rw [hnil])
    rw [parent?_of_steps_eq_nil hplace hsteps, if_neg hnot, Option.or_none]
  · obtain ⟨parent, hparent, habsolute, hcomponents⟩ := exists_parent? hplace hsteps
    obtain ⟨above, last, hsplit⟩ := (List.eq_nil_or_concat' place.components).resolve_left
      (by rw [components_eq_root_cons hplace]; exact List.cons_ne_nil _ _)
    rw [hsplit, List.dropLast_concat] at hcomponents
    rw [hsplit] at hne
    simp only [hparent, find_ensure habsolute hq, hcomponents, hsplit, List.prefix_concat_iff, hne,
      false_or]

theorem find_addFile (hroot : m.root.isAbsolute = true) (hq : q.isAbsolute = true)
    (path : Path) (content : String) :
    find q (m.addFile path content).entries =
      if q.components = (m.place path).components then some (.file content)
      else (find q m.entries).or
        (if q.components <+: (m.place path).components then some .directory else none) := by
  rw [addFile, find_put]
  split
  · rfl
  · next hne => exact find_above (isAbsolute_join hroot) hq hne

theorem find_addDirectory (hroot : m.root.isAbsolute = true) (hq : q.isAbsolute = true)
    (path : Path) :
    find q (m.addDirectory path).entries =
      (find q m.entries).or
        (if q.components <+: (m.place path).components then some .directory else none) :=
  find_ensure (isAbsolute_join hroot) hq

theorem Tidy.addFile (h : Tidy m.entries) (hroot : m.root.isAbsolute = true) (path : Path)
    (content : String) : Tidy (m.addFile path content).entries := by
  have hplace : (m.place path).isAbsolute = true := isAbsolute_join hroot
  refine Tidy.put ?_ hplace _
  split
  · next hparent => exact h.ensure (isAbsolute_of_parent? hplace hparent)
  · exact h

theorem Tidy.addDirectory (h : Tidy m.entries) (hroot : m.root.isAbsolute = true) (path : Path) :
    Tidy (m.addDirectory path).entries :=
  h.ensure (isAbsolute_join hroot)

end Add

section Views

theorem read_eq_ok_iff {content : String} :
    m.read p = .ok content ↔ m.entry? p = some (.file content) := by
  rw [read]
  split <;> simp_all

theorem isFile_iff_exists_read :
    m.view.isFile p = true ↔ ∃ content, m.read p = .ok content := by
  simp only [read_eq_ok_iff, view]
  cases hentry : m.entry? p with
  | none => simp
  | some e => cases e <;> simp [MemoryEntry.kind]

def listed (e : Path × MemoryEntry) : DirEntry := ⟨e.1, e.1.fileName?.getD "", e.2.kind⟩

theorem exists_list_iff :
    (∃ listing, m.list p = .ok listing) ↔ m.view.isDirectory p = true := by
  simp only [list, view, entry?]
  split <;> simp_all

theorem perm_of_list {listing : List DirEntry} (h : m.list p = .ok listing) :
    listing.Perm ((m.entries.filter (isChildOf (m.place p) ·.1)).map listed) := by
  rw [list] at h
  split at h
  · cases h
  · cases h
  · cases h
    exact List.mergeSort_perm _ _

theorem Tidy.isAbsolute_of_mem_list (h : Tidy m.entries) {listing : List DirEntry}
    (hlist : m.list p = .ok listing) {e : DirEntry} (he : e ∈ listing) :
    e.path.isAbsolute = true := by
  obtain ⟨x, hx, rfl⟩ := List.mem_map.mp ((perm_of_list hlist).mem_iff.mp he)
  exact h.absolute x (List.mem_of_mem_filter hx)

theorem Tidy.nodup_list (h : Tidy m.entries) {listing : List DirEntry}
    (hlist : m.list p = .ok listing) : (listing.map (·.path.components)).Nodup := by
  have hnodup := h.nodup
  rw [List.map_map] at hnodup
  rw [((perm_of_list hlist).map _).nodup_iff, List.map_map]
  exact hnodup.sublist (List.filter_sublist.map _)

theorem isChildOf_iff :
    isChildOf p q = true ↔ ∃ parent, q.parent? = some parent ∧ parent.Same p := by
  rw [isChildOf, beq_iff_eq, Option.map_eq_some_iff]
  rfl

theorem isChildOf_congr {r : Path} (hq : q.isAbsolute = true) (hr : r.isAbsolute = true)
    (h : q.Same r) : isChildOf p q = isChildOf p r := by
  have hsame : q.components = r.components := h
  rw [isChildOf, isChildOf, map_components_parent? hq, map_components_parent? hr, hsame]

theorem Tidy.mem_list_iff (h : Tidy m.entries) (hq : (m.place q).isAbsolute = true)
    {listing : List DirEntry} (hlist : m.list p = .ok listing) (kind : EntryKind) :
    (∃ e ∈ listing, e.path.Same (m.place q) ∧ e.kind = kind) ↔
      (∃ parent, (m.place q).parent? = some parent ∧ parent.Same (m.place p)) ∧
        (m.entry? q).map MemoryEntry.kind = some kind := by
  have hperm := perm_of_list hlist
  rw [← isChildOf_iff, Option.map_eq_some_iff]
  constructor
  · rintro ⟨e, he, hsame, rfl⟩
    obtain ⟨⟨path, entry⟩, hchild, rfl⟩ := List.mem_map.mp (hperm.mem_iff.mp he)
    obtain ⟨hmem, hchild⟩ := List.mem_filter.mp hchild
    rw [isChildOf_congr (h.absolute _ hmem) hq hsame] at hchild
    exact ⟨hchild, entry, h.find_eq_some_iff.mpr ⟨path, hmem, hsame⟩, rfl⟩
  · rintro ⟨hchild, entry, hentry, rfl⟩
    obtain ⟨path, hmem, hsame⟩ := h.find_eq_some_iff.mp hentry
    rw [← isChildOf_congr (h.absolute _ hmem) hq hsame] at hchild
    have hfilter : (path, entry) ∈ m.entries.filter (isChildOf (m.place p) ·.1) :=
      List.mem_filter.mpr ⟨hmem, hchild⟩
    exact ⟨_, hperm.mem_iff.mpr (List.mem_map_of_mem hfilter), hsame, rfl⟩

end Views

end Reactor.Memory
