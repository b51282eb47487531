import Mathlib.Data.List.Infix
import Reactor.Proofs.Substitution

namespace Reactor

namespace Placeholder

/-- A placeholder stands at the start of the text. -/
def Opens (text : List Char) : Prop :=
  ∃ name rest, IsName name ∧ text = (Piece.placeholder name).text ++ rest

/-- The pieces make up the text, each placeholder has a name, and none is passed over: where a
character stands for itself, no placeholder begins. -/
structure IsSplit (text : List Char) (split : List Piece) : Prop where
  text_eq : split.flatMap Piece.text = text
  isName : ∀ name, .placeholder name ∈ split → IsName name
  leftmost : ∀ before c after, split = before ++ .literal c :: after →
    ¬Opens (c :: after.flatMap Piece.text)

def Piece.value? (properties : Properties) : Piece → Option (List Char)
  | literal _ => none
  | placeholder name => properties[String.ofList name]?.map String.toList

theorem Piece.substituted_eq (properties : Properties) (p : Piece) :
    p.substituted properties = (p.value? properties).getD p.text := by
  cases p with
  | literal c => rfl
  | placeholder name =>
    rw [substituted, value?]
    cases properties[String.ofList name]? <;> rfl

theorem pieces_of_not_opens {c : Char} {cs : List Char} (h : ¬Opens (c :: cs)) :
    pieces (c :: cs) = .literal c :: pieces cs := by
  rcases pieces_cons c cs with hliteral | ⟨name, rest, htext, hname, -⟩
  · exact hliteral
  · exact absurd ⟨name, rest, hname, htext⟩ h

theorem not_opens_of_pieces {c : Char} {cs : List Char} {after : List Piece}
    (h : pieces (c :: cs) = .literal c :: after) : ¬Opens (c :: cs) := by
  rintro ⟨name, rest, hname, htext⟩
  rw [htext, pieces_placeholder hname] at h
  cases h

theorem pieces_flatMap_text {cs : List Char} {before after : List Piece}
    (h : pieces cs = before ++ after) : pieces (after.flatMap Piece.text) = after := by
  induction before generalizing cs with
  | nil => rw [← List.nil_append after, ← h, flatMap_text_pieces]
  | cons p before ih =>
    cases cs with
    | nil => simp [pieces] at h
    | cons c cs =>
      rcases pieces_cons c cs with hcons | ⟨name, rest, -, -, hcons⟩
      · exact ih (List.cons.inj (hcons.symm.trans h)).2
      · exact ih (List.cons.inj (hcons.symm.trans h)).2

theorem isSplit_pieces (cs : List Char) : IsSplit cs (pieces cs) where
  text_eq := flatMap_text_pieces cs
  isName _ h := isName_of_mem_pieces h
  leftmost _ _ _ h := not_opens_of_pieces (pieces_flatMap_text h)

theorem IsSplit.tail {cs : List Char} {p : Piece} {split : List Piece}
    (h : IsSplit cs (p :: split)) : IsSplit (split.flatMap Piece.text) split where
  text_eq := rfl
  isName name hname := h.isName name (List.mem_cons_of_mem p hname)
  leftmost before c after hsplit := h.leftmost (p :: before) c after (by rw [hsplit]; rfl)

theorem isSplit_iff {cs : List Char} {split : List Piece} :
    IsSplit cs split ↔ split = pieces cs := by
  refine ⟨fun h ↦ ?_, fun h ↦ h ▸ isSplit_pieces cs⟩
  -- along the split: its first piece leaves the scan no choice, and its tail splits what is left
  induction split generalizing cs with
  | nil => rw [← h.text_eq, List.flatMap_nil, pieces]
  | cons p split ih =>
    have htail : split = pieces (split.flatMap Piece.text) := ih h.tail
    rw [← h.text_eq, List.flatMap_cons]
    cases p with
    | literal c =>
      have hstays : ¬Opens (c :: split.flatMap Piece.text) := h.leftmost [] c split rfl
      rw [Piece.text, List.singleton_append, pieces_of_not_opens hstays, ← htail]
    | placeholder name =>
      have hname : IsName name := h.isName name List.mem_cons_self
      rw [pieces_placeholder hname, ← htail]

theorem exists_mem_pieces_iff {cs : List Char} :
    (∃ name, .placeholder name ∈ pieces cs) ↔
      ∃ before after, cs = before ++ after ∧ Opens after := by
  constructor
  · rintro ⟨name, hmem⟩
    obtain ⟨before, after, hsplit⟩ := List.append_of_mem hmem
    refine ⟨before.flatMap Piece.text, (Piece.placeholder name).text ++ after.flatMap Piece.text,
      ?_, name, _, isName_of_mem_pieces hmem, rfl⟩
    rw [← List.flatMap_cons, ← List.flatMap_append, ← hsplit, flatMap_text_pieces]
  · rintro ⟨before, after, rfl, name, rest, hname, rfl⟩
    exact exists_mem_pieces before hname rest

end Placeholder

open Placeholder

theorem substitute_of_not_opening {s : String} (h : ¬"$\x7b".toList <:+: s.toList)
    (properties : Properties) : substitute s properties = s := by
  refine substitute_of_not_hasPlaceholder (Bool.eq_false_iff.mpr fun hfound ↦ h ?_) properties
  obtain ⟨before, after, htext, name, rest, -, rfl⟩ :=
    exists_mem_pieces_iff.mp (hasPlaceholder_iff.mp hfound)
  exact ⟨before, name ++ '\x7d' :: rest, by rw [htext]; simp [Piece.text]⟩

/-- A text has exactly one split. Substitution puts values in the places of its placeholders and
keeps all else, and there is a placeholder in the split when one stands anywhere in the text. -/
theorem substitute_unique_split (s : String) (properties : Properties) :
    ∃ split, (∀ other, IsSplit s.toList other ↔ other = split) ∧
      (substitute s properties).toList =
        split.flatMap (fun p ↦ (p.value? properties).getD p.text) ∧
      (hasPlaceholder s = true ↔ ∃ name, .placeholder name ∈ split) ∧
      (hasPlaceholder s = true ↔ ∃ before after, s.toList = before ++ after ∧ Opens after) ∧
      (if "$\x7b".toList <:+: s.toList then substitute s properties else s) =
        substitute s properties := by
  refine ⟨pieces s.toList, fun _ ↦ isSplit_iff, ?_, hasPlaceholder_iff, ?_, ?_⟩
  · rw [substitute, String.toList_ofList, funext (Piece.substituted_eq properties)]
  · rw [hasPlaceholder_iff, exists_mem_pieces_iff]
  · split
    · rfl
    · next h => exact (substitute_of_not_opening h properties).symm

/-- Braces without a name open nothing, and a name may hold what would open another placeholder. -/
example : pieces "$\x7b\x7d$\x7ba$\x7bb\x7d".toList =
    [.literal '$', .literal '\x7b', .literal '\x7d', .placeholder "a$\x7bb".toList] := by
  decide +kernel

end Reactor
