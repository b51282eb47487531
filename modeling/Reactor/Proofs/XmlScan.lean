import Reactor.Proofs.XmlReaders

namespace Reactor.Xml

section Fuel

theorem length_of_readRawAttribute {cs rest : List Char} {raw : QName × List Char}
    (h : readRawAttribute cs = .ok (raw, rest)) : rest.length < cs.length := by
  obtain ⟨⟨name, afterName⟩, hname, h⟩ := bind_eq_ok_iff.mp h
  obtain ⟨afterEquals, hequals, h⟩ := bind_eq_ok_iff.mp h
  obtain ⟨⟨quote, afterQuote⟩, hquote, h⟩ := bind_eq_ok_iff.mp h
  obtain ⟨⟨value, afterValue⟩, hvalue, h⟩ := bind_eq_ok_iff.mp h
  obtain ⟨afterAll, hall, h⟩ := bind_eq_ok_iff.mp h
  obtain ⟨-, rfl⟩ : (name, value) = raw ∧ afterAll = rest := by simpa using h
  have hname := (isLocal_readQName.suffix hname).length_le
  have hequals := congrArg List.length (expect_eq_ok_iff.mp hequals)
  have hquote := (isLocal_readQuote.spaces.suffix hquote).length_le
  have hvalue := congrArg List.length (append_of_readUntil hvalue)
  have hall := congrArg List.length (expect_eq_ok_iff.mp hall)
  have hblank := (List.dropWhile_suffix isSpace (l := afterName)).length_le
  simp [skipSpaces] at *
  omega

theorem readAttributes_of_le {fuel fuel' : Nat} {attributes : List Attribute} {cs : List Char}
    {result : (List Attribute × Bool) × List Char}
    (h : readAttributes fuel attributes cs = .ok result) (hle : cs.length ≤ fuel') :
    readAttributes fuel' attributes cs = .ok result := by
  induction fuel generalizing fuel' attributes cs with
  | zero => cases h
  | succ fuel ih =>
    cases fuel' with
    | zero =>
      obtain rfl := List.eq_nil_of_length_eq_zero (Nat.le_zero.mp hle)
      cases h
    | succ fuel' =>
      rw [readAttributes] at h ⊢
      split at h
      · cases h
      · simp only [*]
      · simp only [*]
      · by_cases hspace : !cs.head?.any isSpace
        · rw [if_pos hspace] at h
          cases h
        · rw [if_neg hspace] at h ⊢
          obtain ⟨⟨⟨name, raw⟩, rest⟩, hraw, h⟩ := bind_eq_ok_iff.mp h
          obtain ⟨value, hvalue, h⟩ := bind_eq_ok_iff.mp h
          have hshort := length_of_readRawAttribute hraw
          have hblank := (List.dropWhile_suffix isSpace (l := cs)).length_le
          rw [skipSpaces] at hshort
          rw [hraw, ok_bind]
          dsimp only
          rw [hvalue, ok_bind]
          exact ih h (by omega)

end Fuel

namespace Token

variable {fuel fuel' : Nat} {cs rest : List Char} {t : Token}

theorem next_of_le (h : next fuel cs = .ok (t, rest)) (hle : cs.length ≤ fuel') :
    next fuel' cs = .ok (t, rest) := by
  rw [next.eq_def] at h ⊢
  split at h
  · simp only [*]
  · simp only [*]
  · simp only [*]
  · obtain ⟨⟨name, afterName⟩, hname, h⟩ := bind_eq_ok_iff.mp h
    obtain ⟨⟨⟨attributes, isEmpty⟩, afterAttributes⟩, hattributes, h⟩ := bind_eq_ok_iff.mp h
    have hsuffix := (isLocal_readQName.suffix hname).length_le
    simp only [List.length_cons] at hle
    rw [hname, ok_bind]
    dsimp only
    rw [readAttributes_of_le hattributes (by omega)]
    exact h
  · simp only [*]

theorem suffix_of_next {c : Char} (h : next fuel (c :: cs) = .ok (t, rest)) : rest <:+ cs := by
  by_cases hc : c = '<'
  · subst hc
    exact (isLocal_markup fuel).suffix h
  · rw [next_eq, if_neg (by simpa [startsWith] using Ne.symm hc)] at h
    obtain ⟨⟨raw, afterRaw⟩, hraw, h⟩ := bind_eq_ok_iff.mp h
    by_cases hend : hasSectionEnd raw
    · simp [hend] at h
    · simp only [hend] at h
      obtain ⟨content, -, h⟩ := bind_eq_ok_iff.mp h
      obtain ⟨-, rfl⟩ : _ ∧ afterRaw = rest := by simpa using h
      rcases readUntil_cons_eq_ok_iff.mp hraw with ⟨-, ⟨hhere, -⟩ | ⟨-, text, hnext, -⟩⟩
      · exact absurd (by simpa using hhere) hc
      · rw [append_of_readUntil hnext]
        exact List.suffix_append ..

end Token

open Token

inductive Scans : List Char → List Located → List Char → Prop
  | nil (cs : List Char) : Scans cs [] cs
  | cons {fuel : Nat} {c : Char} {cs rest last : List Char} {t : Token} {ts : List Located} :
      next fuel (c :: cs) = .ok (t, rest) → Scans rest ts last →
      Scans (c :: cs) (⟨t, c :: cs, rest⟩ :: ts) last

namespace Scans

variable {cs more last : List Char} {t : Located} {ts us : List Located}

theorem suffix (h : Scans cs ts last) : last <:+ cs := by
  induction h with
  | nil cs => exact List.suffix_refl cs
  | cons hnext _ ih => exact ih.trans ((suffix_of_next hnext).trans (List.suffix_cons ..))

theorem of_scanWith {fuel : Nat} (h : scanWith fuel cs = .ok ts) : Scans cs ts [] := by
  induction fuel generalizing cs ts with
  | zero =>
    cases cs with
    | nil =>
      obtain rfl : ts = [] := by simpa [scanWith, eq_comm] using h
      exact .nil []
    | cons c cs => cases h
  | succ fuel ih =>
    cases cs with
    | nil =>
      obtain rfl : ts = [] := by simpa [scanWith, eq_comm] using h
      exact .nil []
    | cons c cs =>
      obtain ⟨⟨t, rest⟩, hnext, h⟩ := bind_eq_ok_iff.mp h
      obtain ⟨us, hus, h⟩ := bind_eq_ok_iff.mp h
      obtain rfl : _ = ts := by simpa using h
      exact .cons hnext (ih hus)

theorem scanWith_eq (h : Scans cs ts []) {fuel : Nat} (hle : cs.length ≤ fuel) :
    scanWith fuel cs = .ok ts := by
  induction ts generalizing cs fuel with
  | nil =>
    cases h
    cases fuel <;> rfl
  | cons t ts ih =>
    obtain _ | ⟨hnext, hrest⟩ := h
    have hshort := (suffix_of_next hnext).length_le
    rw [List.length_cons] at hle
    cases fuel with
    | zero => exact absurd hle (by simp)
    | succ fuel =>
      rw [scanWith, next_of_le hnext hle, ok_bind]
      · dsimp only
        rw [ih hrest (by omega)]
        rfl
      · nofun

end Scans

theorem scan_eq_ok_iff {cs : List Char} {ts : List Located} :
    scan cs = .ok ts ↔ Scans cs ts [] :=
  ⟨Scans.of_scanWith, fun h ↦ h.scanWith_eq le_rfl⟩

namespace Scans

variable {cs more last : List Char} {t : Located} {ts us : List Located}

theorem append_iff :
    Scans cs (ts ++ us) last ↔ ∃ middle, Scans cs ts middle ∧ Scans middle us last := by
  constructor
  · intro h
    induction ts generalizing cs with
    | nil => exact ⟨cs, .nil cs, h⟩
    | cons t ts ih =>
      obtain _ | ⟨hnext, hrest⟩ := h
      obtain ⟨middle, hts, hus⟩ := ih hrest
      exact ⟨middle, .cons hnext hts, hus⟩
  · rintro ⟨middle, hts, hus⟩
    induction hts with
    | nil cs => exact hus
    | cons hnext _ ih => exact .cons hnext (ih hus)

theorem input_eq (h : Scans cs (t :: ts) last) : t.input = cs := by
  obtain _ | ⟨hnext, hrest⟩ := h
  rfl

theorem rest_eq (h : Scans cs (ts ++ [t]) last) : t.rest = last := by
  obtain ⟨middle, -, h⟩ := append_iff.mp h
  obtain _ | ⟨hnext, _ | _⟩ := h
  rfl

theorem cut (h : Scans (cs ++ more) ts (last ++ more)) :
    ∃ us, us.map Located.token = ts.map Located.token ∧ Scans cs us last := by
  induction ts generalizing cs with
  | nil =>
    obtain rfl : cs = last := by
      generalize hstart : cs ++ more = start at h
      generalize hend : last ++ more = stop at h
      cases h
      simpa using hstart.trans hend.symm
    exact ⟨[], rfl, .nil cs⟩
  | cons t ts ih =>
    cases cs with
    | nil =>
      rw [List.nil_append] at h
      obtain _ | ⟨hnext, hrest⟩ := h
      have hshort := (hrest.suffix.trans (suffix_of_next hnext)).length_le
      simp only [List.length_append, List.length_cons] at hshort
      omega
    | cons c cs =>
      rw [List.cons_append] at h
      obtain _ | ⟨hnext, hrest⟩ := h
      obtain ⟨kept, rfl⟩ := exists_append_of_suffix hrest.suffix
      obtain ⟨us, hus, hscan⟩ := ih hrest
      exact ⟨_ :: us, by simp [hus], .cons ((isLocal_next _).cut hnext) hscan⟩

end Scans

end Reactor.Xml
