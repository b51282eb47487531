import Reactor.Text.Pattern

namespace Reactor.Text

theorem ByteSet.contains_single {a b : UInt8} : (single a).contains b = true ↔ b = a := by
  simp [contains, single, UInt8.le_antisymm_iff, and_comm]

namespace Pattern

variable {p q : Pattern} {s : ByteSet} {b : UInt8} {u : List UInt8}

section Shapes

@[simp]
theorem not_accepts_never : ¬ Accepts never u := nofun

@[simp]
theorem accepts_empty_iff : Accepts empty u ↔ u = [] := by
  constructor
  · rintro ⟨⟩
    rfl
  · rintro rfl
    exact .empty

@[simp]
theorem not_accepts_byte_nil : ¬ Accepts (byte s) [] := nofun

@[simp]
theorem accepts_byte_cons_iff : Accepts (byte s) (b :: u) ↔ s.contains b ∧ u = [] := by
  constructor
  · rintro ⟨⟩
    next hb => exact ⟨hb, rfl⟩
  · rintro ⟨hb, rfl⟩
    exact .byte hb

theorem accepts_join_iff :
    Accepts (join p q) u ↔ ∃ v w, u = v ++ w ∧ p.Accepts v ∧ q.Accepts w := by
  constructor
  · rintro ⟨⟩
    next v w hv hw => exact ⟨v, w, rfl, hv, hw⟩
  · rintro ⟨v, w, rfl, hv, hw⟩
    exact .join hv hw

theorem accepts_either_iff : Accepts (either p q) u ↔ p.Accepts u ∨ q.Accepts u := by
  constructor
  · rintro ⟨⟩
    · next h => exact .inl h
    · next h => exact .inr h
  · rintro (h | h)
    · exact .left h
    · exact .right h

theorem accepts_join_cons_iff :
    Accepts (join p q) (b :: u) ↔
      (∃ v w, u = v ++ w ∧ p.Accepts (b :: v) ∧ q.Accepts w) ∨
        (p.Accepts [] ∧ q.Accepts (b :: u)) := by
  rw [accepts_join_iff]
  constructor
  · rintro ⟨v, w, hu, hv, hw⟩
    cases v with
    | nil => exact .inr ⟨hv, hu ▸ hw⟩
    | cons c v =>
      obtain ⟨rfl, rfl⟩ := List.cons.inj hu
      exact .inl ⟨v, w, rfl, hv, hw⟩
  · rintro (⟨v, w, rfl, hv, hw⟩ | ⟨hp, hq⟩)
    · exact ⟨b :: v, w, rfl, hv, hw⟩
    · exact ⟨[], b :: u, rfl, hp, hq⟩

theorem accepts_byte_join_iff :
    Accepts (join (byte s) p) u ↔ ∃ b v, u = b :: v ∧ s.contains b ∧ p.Accepts v := by
  rw [accepts_join_iff]
  constructor
  · rintro ⟨v, w, rfl, hv, hw⟩
    obtain ⟨b, rfl, hb⟩ : ∃ b, v = [b] ∧ s.contains b := by
      obtain ⟨⟩ := hv
      next b hb => exact ⟨b, rfl, hb⟩
    exact ⟨b, w, rfl, hb, hw⟩
  · rintro ⟨b, v, rfl, hb, hv⟩
    exact ⟨[b], v, rfl, .byte hb, hv⟩

theorem accepts_many_cons_iff :
    Accepts (many p) (b :: u) ↔
      ∃ v w, u = v ++ w ∧ p.Accepts (b :: v) ∧ (many p).Accepts w := by
  constructor
  · intro h
    generalize hr : many p = r, ht : b :: u = t at h
    induction h with
    | empty | byte | join | left | right => cases hr
    | none => cases ht
    | @more p' v w hv hw _ ih =>
      cases hr
      cases v with
      | nil => exact ih rfl ht
      | cons c v =>
        obtain ⟨rfl, rfl⟩ := List.cons.inj ht
        exact ⟨v, w, rfl, hv, hw⟩
  · rintro ⟨v, w, rfl, hv, hw⟩
    exact .more hv hw

theorem accepts_many_iff :
    (many p).Accepts u ↔ ∃ parts : List (List UInt8),
      (∀ part ∈ parts, p.Accepts part) ∧ u = parts.flatten := by
  constructor
  · intro h
    generalize hr : many p = r at h
    induction h with
    | empty | byte | join | left | right => cases hr
    | none => exact ⟨[], by simp, rfl⟩
    | @more _ v w hv _ _ ih =>
      cases hr
      obtain ⟨parts, hparts, rfl⟩ := ih rfl
      exact ⟨v :: parts, List.forall_mem_cons.mpr ⟨hv, hparts⟩, rfl⟩
  · rintro ⟨parts, hparts, rfl⟩
    induction parts with
    | nil => exact .none
    | cons part parts ih =>
      obtain ⟨hpart, hparts⟩ := List.forall_mem_cons.mp hparts
      exact .more hpart (ih hparts)

end Shapes

section Matching

theorem acceptsEmpty_iff : p.acceptsEmpty = true ↔ p.Accepts [] := by
  induction p with
  | never | empty | byte => simp [acceptsEmpty]
  | join p q ihp ihq =>
    rw [acceptsEmpty, Bool.and_eq_true, ihp, ihq, accepts_join_iff]
    constructor
    · rintro ⟨hp, hq⟩
      exact ⟨[], [], rfl, hp, hq⟩
    · rintro ⟨v, w, hu, hv, hw⟩
      obtain ⟨rfl, rfl⟩ := List.append_eq_nil_iff.mp hu.symm
      exact ⟨hv, hw⟩
  | either p q ihp ihq => simp [acceptsEmpty, accepts_either_iff, ihp, ihq]
  | many p => simp [acceptsEmpty, Accepts.none]

theorem accepts_andThen_iff :
    (p.andThen q).Accepts u ↔ ∃ v w, u = v ++ w ∧ p.Accepts v ∧ q.Accepts w := by
  fun_cases andThen p q with
  | case1 | case2 | case4 => simp
  | case3 =>
    constructor
    · intro h
      exact ⟨[], u, rfl, .empty, h⟩
    · rintro ⟨v, w, rfl, hv, hw⟩
      rwa [accepts_empty_iff.mp hv, List.nil_append]
  | case5 => exact accepts_join_iff

theorem exists_mem_map_andThen_iff {ps : List Pattern} :
    (∃ r ∈ ps.map (·.andThen q), r.Accepts u) ↔
      ∃ v w, u = v ++ w ∧ (∃ r ∈ ps, r.Accepts v) ∧ q.Accepts w := by
  constructor
  · rintro ⟨_, hmem, hu⟩
    obtain ⟨r, hr, rfl⟩ := List.mem_map.mp hmem
    obtain ⟨v, w, hu, hv, hw⟩ := accepts_andThen_iff.mp hu
    exact ⟨v, w, hu, ⟨r, hr, hv⟩, hw⟩
  · rintro ⟨v, w, hu, ⟨r, hr, hv⟩, hw⟩
    exact ⟨r.andThen q, List.mem_map_of_mem hr, accepts_andThen_iff.mpr ⟨v, w, hu, hv, hw⟩⟩

/-- What is left of a text after its first byte tells of one pattern what the whole tells of the
other. -/
theorem exists_mem_after_iff : (∃ r ∈ p.after b, r.Accepts u) ↔ p.Accepts (b :: u) := by
  induction p generalizing u with
  | never | empty => simp [after]
  | byte s => by_cases hb : s.contains b <;> simp [after, hb]
  | either p q ihp ihq =>
    simp only [after, List.mem_append, or_and_right, exists_or, ihp, ihq, accepts_either_iff]
  | join p q ihp ihq =>
    rw [accepts_join_cons_iff, ← acceptsEmpty_iff]
    simp only [after, List.mem_append, or_and_right, exists_or, exists_mem_map_andThen_iff, ihp]
    cases p.acceptsEmpty <;> simp [ihq]
  | many p ih => simp only [after, exists_mem_map_andThen_iff, ih, accepts_many_cons_iff]

theorem exists_mem_foldl_after_iff {ps : List Pattern} :
    (∃ r ∈ u.foldl (fun ps b ↦ (ps.flatMap (·.after b)).eraseDups) ps, r.Accepts []) ↔
      ∃ p ∈ ps, p.Accepts u := by
  induction u generalizing ps with
  | nil => rfl
  | cons b u ih =>
    rw [List.foldl_cons, ih]
    simp only [List.mem_eraseDups, List.mem_flatMap]
    constructor
    · rintro ⟨r, ⟨p, hp, hr⟩, hu⟩
      exact ⟨p, hp, exists_mem_after_iff.mp ⟨r, hr, hu⟩⟩
    · rintro ⟨p, hp, hu⟩
      obtain ⟨r, hr, hu⟩ := exists_mem_after_iff.mpr hu
      exact ⟨r, ⟨p, hp, hr⟩, hu⟩

theorem accepts_iff : p.accepts u = true ↔ p.Accepts u := by
  rw [accepts, List.any_eq_true]
  simp only [acceptsEmpty_iff, exists_mem_foldl_after_iff, List.mem_singleton, exists_eq_left]

end Matching

section Parts

variable {separator : UInt8}

def atLeastOne (s : ByteSet) : Pattern := join (byte s) (many (byte s))

def separatedBy (separator : UInt8) (p : Pattern) : Pattern :=
  join p (many (join (byte (.single separator)) p))

theorem accepts_many_byte_iff : (many (byte s)).Accepts u ↔ ∀ b ∈ u, s.contains b := by
  induction u with
  | nil => simp [Accepts.none]
  | cons b u ih =>
    rw [accepts_many_cons_iff, List.forall_mem_cons, ← ih]
    constructor
    · rintro ⟨v, w, rfl, hb, hw⟩
      obtain ⟨hcontains, rfl⟩ := accepts_byte_cons_iff.mp hb
      exact ⟨hcontains, hw⟩
    · rintro ⟨hb, hu⟩
      exact ⟨[], u, rfl, .byte hb, hu⟩

theorem accepts_atLeastOne_iff :
    (atLeastOne s).Accepts u ↔ u ≠ [] ∧ ∀ b ∈ u, s.contains b := by
  rw [atLeastOne, accepts_byte_join_iff]
  constructor
  · rintro ⟨b, v, rfl, hb, hv⟩
    exact ⟨by simp, List.forall_mem_cons.mpr ⟨hb, accepts_many_byte_iff.mp hv⟩⟩
  · rintro ⟨hne, hu⟩
    obtain ⟨b, v, rfl⟩ := List.exists_cons_of_ne_nil hne
    obtain ⟨hb, hv⟩ := List.forall_mem_cons.mp hu
    exact ⟨b, v, rfl, hb, accepts_many_byte_iff.mpr hv⟩

theorem accepts_single_join_iff :
    Accepts (join (byte (.single b)) p) u ↔ ∃ v, u = b :: v ∧ p.Accepts v := by
  simp only [accepts_byte_join_iff, ByteSet.contains_single]
  constructor
  · rintro ⟨_, v, hu, rfl, hv⟩
    exact ⟨v, hu, hv⟩
  · rintro ⟨v, hu, hv⟩
    exact ⟨b, v, hu, rfl, hv⟩

theorem Accepts.separatedBy_one (hu : p.Accepts u) : (separatedBy separator p).Accepts u :=
  accepts_join_iff.mpr ⟨u, [], (List.append_nil u).symm, hu, .none⟩

theorem Accepts.separatedBy_cons {v w : List UInt8} (hv : p.Accepts v)
    (hw : (separatedBy separator p).Accepts w) :
    (separatedBy separator p).Accepts (v ++ separator :: w) := by
  obtain ⟨first, rest, rfl, hfirst, hrest⟩ := accepts_join_iff.mp hw
  have hnext : (Pattern.join (.byte (.single separator)) p).Accepts (separator :: first) :=
    accepts_single_join_iff.mpr ⟨first, rfl, hfirst⟩
  exact .join hv (.more hnext hrest)

theorem accepts_separatedBy_iff :
    (separatedBy separator p).Accepts u ↔ ∃ parts : List (List UInt8),
      parts ≠ [] ∧ (∀ part ∈ parts, p.Accepts part) ∧ u = [separator].intercalate parts := by
  constructor
  · intro h
    obtain ⟨first, _, rfl, hfirst, hmany⟩ := accepts_join_iff.mp h
    obtain ⟨rest, hrest, rfl⟩ := accepts_many_iff.mp hmany
    clear h hmany
    induction rest generalizing first with
    | nil => exact ⟨[first], by simp, by simpa using hfirst, by simp⟩
    | cons part rest ih =>
      obtain ⟨hnext, hothers⟩ := List.forall_mem_cons.mp hrest
      obtain ⟨second, rfl, hsecond⟩ := accepts_single_join_iff.mp hnext
      obtain ⟨parts, hne, hparts, heq⟩ := ih second hsecond hothers
      refine ⟨first :: parts, by simp, List.forall_mem_cons.mpr ⟨hfirst, hparts⟩, ?_⟩
      rw [List.intercalate_cons_of_ne_nil hne, ← heq]
      simp
  · rintro ⟨parts, hne, hparts, rfl⟩
    induction parts with
    | nil => exact absurd rfl hne
    | cons first parts ih =>
      obtain ⟨hfirst, hparts⟩ := List.forall_mem_cons.mp hparts
      by_cases hlast : parts = []
      · simpa [hlast] using hfirst.separatedBy_one
      · simpa [List.intercalate_cons_of_ne_nil hlast] using
          hfirst.separatedBy_cons (ih hlast hparts)

end Parts

end Pattern

section Bytes

theorem toList_loop (bytes : ByteArray) (i : Nat) (taken : List UInt8) :
    ByteArray.toList.loop bytes i taken = taken.reverse ++ bytes.data.toList.drop i := by
  fun_induction ByteArray.toList.loop bytes i taken with
  | case1 i taken hi ih =>
    have hlt : i < bytes.data.toList.length := by simpa using hi
    have hget : bytes.get! i = bytes.data.toList[i] := by
      simp [ByteArray.get!, hi]
    rw [ih, List.drop_eq_getElem_cons hlt, hget]
    simp
  | case2 i taken hi =>
    rw [List.drop_eq_nil_of_le (by simpa using hi), List.append_nil]

theorem toList_eq_data (bytes : ByteArray) : bytes.toList = bytes.data.toList := by
  rw [ByteArray.toList, toList_loop]
  rfl

theorem toList_toUTF8 (s : String) :
    s.toUTF8.toList = s.toList.flatMap String.utf8EncodeChar := by
  rw [toList_eq_data, String.toUTF8_eq_toByteArray, ← String.utf8Encode_toList, List.utf8Encode,
    List.toList_data_toByteArray]

theorem length_toUTF8 (s : String) : s.toUTF8.toList.length = s.utf8ByteSize := by
  rw [toList_eq_data]
  rfl

theorem eq_of_toUTF8 {s t : String} (h : s.toUTF8.toList = t.toUTF8.toList) : s = t := by
  rw [toList_eq_data, toList_eq_data] at h
  exact String.toByteArray_inj.mp (ByteArray.ext (Array.toList_inj.mp h))

theorem utf8EncodeChar_of_ascii {c : Char} (h : c.toNat < 128) :
    String.utf8EncodeChar c = [c.toUInt8] := by
  have hsize : c.utf8Size = 1 := by
    rw [Char.utf8Size_eq_one_iff, UInt32.le_iff_toNat_le]
    exact Nat.le_of_lt_succ h
  exact String.utf8EncodeChar_eq_singleton hsize

theorem flatMap_utf8EncodeChar_of_ascii {cs : List Char} (h : ∀ c ∈ cs, c.toNat < 128) :
    cs.flatMap String.utf8EncodeChar = cs.map Char.toUInt8 := by
  induction cs with
  | nil => rfl
  | cons c cs ih =>
    obtain ⟨hc, hcs⟩ := List.forall_mem_cons.mp h
    rw [List.flatMap_cons, utf8EncodeChar_of_ascii hc, ih hcs]
    rfl

theorem val_ofUInt8 (b : UInt8) : (Char.ofUInt8 b).val = b.toUInt32 := rfl

theorem ofUInt8_toUInt8 {c : Char} (h : c.toNat < 128) : Char.ofUInt8 c.toUInt8 = c := by
  have hval : c.val.toNat < 128 := h
  rw [Char.ext_iff, ← UInt32.toNat_inj, val_ofUInt8]
  simp only [Char.toUInt8, UInt8.toNat_toUInt32, UInt32.toNat_toUInt8]
  omega

theorem toUInt8_ofUInt8 (b : UInt8) : (Char.ofUInt8 b).toUInt8 = b := by
  rw [Char.toUInt8, val_ofUInt8, UInt8.toUInt8_toUInt32]

theorem flatMap_intercalate {α β : Type} (f : α → List β) (a : α) (parts : List (List α)) :
    ([a].intercalate parts).flatMap f = (f a).intercalate (parts.map (·.flatMap f)) := by
  induction parts with
  | nil => rfl
  | cons part parts ih =>
    cases parts with
    | nil => simp
    | cons next parts => simp_all

end Bytes

end Reactor.Text
