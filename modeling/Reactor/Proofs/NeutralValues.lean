import Reactor.Proofs.PlaceholderSplit

namespace Reactor

/-- Every value is there, holds no dollar sign and does not begin with a brace that a dollar sign
before it could open. A closing brace does no harm. -/
def Properties.IsNeutral (properties : Properties) : Prop :=
  ∀ name value : String, properties[name]? = some value →
    value ≠ "" ∧ '$' ∉ value.toList ∧ value.toList.head? ≠ some '\x7b'

namespace Placeholder

/-- What opens a placeholder has a closing brace behind it, though not at once. -/
theorem opens_iff {text : List Char} :
    Opens text ↔ ∃ cs, text = '$' :: '\x7b' :: cs ∧ cs.head? ≠ some '\x7d' ∧ '\x7d' ∈ cs := by
  constructor
  · rintro ⟨name, rest, ⟨hne, hplain⟩, rfl⟩
    refine ⟨name ++ '\x7d' :: rest, by simp [Piece.text], ?_, by simp⟩
    obtain ⟨c, name, rfl⟩ := List.exists_cons_of_ne_nil hne
    have hc : c ≠ '\x7d' := fun h ↦ hplain (h ▸ List.mem_cons_self)
    simpa using hc
  · rintro ⟨cs, rfl, hhead, hmem⟩
    obtain ⟨name, rest, rfl, hplain⟩ := List.eq_append_cons_of_mem hmem
    refine ⟨name, rest, ⟨?_, hplain⟩, by simp [Piece.text]⟩
    rintro rfl
    exact hhead rfl

theorem pieces_cons_of_ne {c : Char} (h : c ≠ '$') (cs : List Char) :
    pieces (c :: cs) = .literal c :: pieces cs := by
  refine pieces_of_not_opens fun hopens ↦ h ?_
  obtain ⟨_, htext, -, -⟩ := opens_iff.mp hopens
  exact (List.cons.inj htext).1

theorem pieces_append_of_notMem {cs : List Char} (h : '$' ∉ cs) (rest : List Char) :
    pieces (cs ++ rest) = cs.map .literal ++ pieces rest := by
  induction cs with
  | nil => rfl
  | cons c cs ih =>
    rw [List.mem_cons, not_or] at h
    rw [List.cons_append, pieces_cons_of_ne (Ne.symm h.1), ih h.2]
    rfl

section Substituted

variable {properties : Properties}

def Piece.settled (properties : Properties) : Piece → List Piece
  | literal c => [literal c]
  | placeholder name =>
    match properties[String.ofList name]? with
    | some value => value.toList.map literal
    | none => [placeholder name]

theorem Piece.unknown_of_mem_settled {name : List Char} {p : Piece}
    (h : .placeholder name ∈ p.settled properties) : properties[String.ofList name]? = none := by
  cases p with
  | literal c => simp [settled] at h
  | placeholder found =>
    cases hvalue : properties[String.ofList found]? with
    | none =>
      have heq : name = found := by simpa [settled, hvalue] using h
      rw [heq, hvalue]
    | some value => simp [settled, hvalue] at h

theorem Piece.flatMap_substituted_settled (p : Piece) :
    (p.settled properties).flatMap (substituted properties) = p.substituted properties := by
  cases p with
  | literal c => rfl
  | placeholder name =>
    rw [settled, substituted]
    cases hvalue : properties[String.ofList name]? with
    | none => simp [substituted, hvalue]
    | some value => simp [List.flatMap_map, substituted]

theorem flatMap_substituted_of_notMem {cs : List Char} (h : '\x7d' ∉ cs) :
    (pieces cs).flatMap (Piece.substituted properties) = cs := by
  refine flatMap_substituted_of_literal (fun name hname ↦ h ?_) properties
  obtain ⟨before, after, rfl, hopens⟩ := exists_mem_pieces_iff.mp ⟨name, hname⟩
  obtain ⟨rest, rfl, -, hmem⟩ := opens_iff.mp hopens
  simp [hmem]

theorem eq_cons_of_substituted (h : properties.IsNeutral) {cs rest : List Char}
    (hout : (pieces cs).flatMap (Piece.substituted properties) = '\x7b' :: rest) :
    ∃ cs', cs = '\x7b' :: cs' ∧ rest = (pieces cs').flatMap (Piece.substituted properties) := by
  cases cs with
  | nil => simp [pieces] at hout
  | cons c cs =>
    rcases pieces_cons c cs with hcons | ⟨name, after, -, -, hcons⟩
    · rw [hcons, List.flatMap_cons] at hout
      obtain ⟨rfl, hrest⟩ := List.cons.inj hout
      exact ⟨cs, rfl, hrest.symm⟩
    · -- in the place of a placeholder stands its dollar sign or a value, never a brace
      exfalso
      rw [hcons, List.flatMap_cons, Piece.substituted] at hout
      cases hvalue : properties[String.ofList name]? with
      | none => simp [hvalue, Piece.text] at hout
      | some value =>
        obtain ⟨hne, -, hhead⟩ := h _ _ hvalue
        obtain ⟨d, ds, hds⟩ := List.exists_cons_of_ne_nil (mt String.toList_eq_nil_iff.mp hne)
        rw [hvalue] at hout
        dsimp only at hout
        rw [hds, List.cons_append] at hout
        rw [hds, (List.cons.inj hout).1] at hhead
        exact hhead rfl

theorem opens_of_substituted (h : properties.IsNeutral) {c : Char} {cs : List Char}
    (hout : Opens (c :: (pieces cs).flatMap (Piece.substituted properties))) :
    Opens (c :: cs) := by
  obtain ⟨rest, htext, hhead, hmem⟩ := opens_iff.mp hout
  obtain ⟨rfl, hbrace⟩ := List.cons.inj htext
  obtain ⟨cs, rfl, rfl⟩ := eq_cons_of_substituted h hbrace
  refine opens_iff.mpr ⟨cs, rfl, fun hcs ↦ hhead ?_, ?_⟩
  · obtain ⟨cs, rfl⟩ := List.head?_eq_some_iff.mp hcs
    rw [pieces_cons_of_ne (by decide)]
    rfl
  · -- without a closing brace there is no placeholder behind, so no value that could bring one
    by_contra hnone
    rw [flatMap_substituted_of_notMem hnone] at hmem
    exact hnone hmem

theorem pieces_substituted (h : properties.IsNeutral) (cs : List Char) :
    pieces ((pieces cs).flatMap (Piece.substituted properties)) =
      (pieces cs).flatMap (Piece.settled properties) := by
  induction hsplit : pieces cs generalizing cs with
  | nil => rw [List.flatMap_nil, List.flatMap_nil, pieces]
  | cons p split ih =>
    have happend : pieces cs = [p] ++ split := hsplit
    have htail : pieces (split.flatMap Piece.text) = split := pieces_flatMap_text happend
    have hrest := ih _ htail
    rw [List.flatMap_cons, List.flatMap_cons, ← hrest]
    cases p with
    | literal c =>
      -- the values behind the character do not make it open a placeholder
      have hstays : ¬Opens (c :: split.flatMap (Piece.substituted properties)) := by
        intro hopens
        rw [← htail] at hopens
        exact (isSplit_pieces cs).leftmost [] c split hsplit (opens_of_substituted h hopens)
      exact pieces_of_not_opens hstays
    | placeholder name =>
      rw [Piece.substituted, Piece.settled]
      cases hvalue : properties[String.ofList name]? with
      | none =>
        have hname : IsName name := isName_of_mem_pieces (hsplit ▸ List.mem_cons_self)
        exact pieces_placeholder hname _
      | some value => exact pieces_append_of_notMem (h _ _ hvalue).2.1 _

end Substituted

end Placeholder

open Placeholder

/-- With neutral values one substitution settles a text: all placeholders left have unknown names,
and a second substitution changes nothing. -/
theorem substitute_substitute (s : String) {properties : Properties} (h : properties.IsNeutral) :
    (∀ name, .placeholder name ∈ pieces (substitute s properties).toList →
      properties[String.ofList name]? = none) ∧
      substitute (substitute s properties) properties = substitute s properties := by
  have hpieces : pieces (substitute s properties).toList =
      (pieces s.toList).flatMap (Piece.settled properties) := by
    rw [substitute, String.toList_ofList, pieces_substituted h]
  constructor
  · intro name hname
    rw [hpieces] at hname
    obtain ⟨p, -, hsettled⟩ := List.mem_flatMap.mp hname
    exact Piece.unknown_of_mem_settled hsettled
  · rw [substitute, hpieces, List.flatMap_assoc, substitute]
    simp only [Piece.flatMap_substituted_settled]

/-- The value brings a closing brace, and stands between a dollar sign and a brace. -/
theorem substitute_substitute_closing :
    let properties : Properties := Std.TreeMap.insert ∅ "a" "x\x7d"
    let s := "$$\x7ba\x7d\x7b$\x7b\x7d$\x7bb\x7d"
    properties.IsNeutral ∧ substitute s properties = "$x\x7d\x7b$\x7b\x7d$\x7bb\x7d" ∧
      (∀ name, .placeholder name ∈ pieces (substitute s properties).toList →
        properties[String.ofList name]? = none) ∧
      substitute (substitute s properties) properties = substitute s properties := by
  intro properties s
  have hneutral : properties.IsNeutral := by
    intro name value hvalue
    simp only [properties, Std.TreeMap.getElem?_insert] at hvalue
    split at hvalue
    · obtain rfl := Option.some.inj hvalue
      decide
    · simp at hvalue
  exact ⟨hneutral, by decide +kernel, substitute_substitute s hneutral⟩

example :
    let properties : Properties := (Std.TreeMap.insert ∅ "a" "1").insert "none" ""
    let once := substitute "$$\x7bnone\x7d\x7ba\x7d" properties
    once = "$\x7ba\x7d" ∧ substitute once properties = "1" := by decide +kernel

end Reactor
