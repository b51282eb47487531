import Mathlib.Data.List.Basic
import Mathlib.Data.List.TakeWhile
import Reactor.Proofs.PropertyLayers

namespace Reactor

namespace Placeholder

def IsName (name : List Char) : Prop := name ≠ [] ∧ '\x7d' ∉ name

theorem takeName?_append {name : List Char} (h : IsName name) (rest : List Char) :
    takeName? (name ++ '\x7d' :: rest) = some (name, rest) := by
  have hall : ∀ c ∈ name, decide (c ≠ '\x7d') = true := by
    intro c hc
    exact decide_eq_true (ne_of_mem_of_not_mem hc h.2)
  rw [takeName?, List.takeWhile_append_of_pos hall, List.dropWhile_append_of_pos hall]
  obtain ⟨c, cs, rfl⟩ := List.exists_cons_of_ne_nil h.1
  simp

theorem eq_append_of_takeName? {cs name rest : List Char} (h : takeName? cs = some (name, rest)) :
    cs = name ++ '\x7d' :: rest ∧ IsName name := by
  have hsplit : cs.takeWhile (· ≠ '\x7d') ++ cs.dropWhile (· ≠ '\x7d') = cs :=
    List.takeWhile_append_dropWhile
  have hbefore : '\x7d' ∉ cs.takeWhile (· ≠ '\x7d') := by
    intro hmem
    simpa using List.mem_takeWhile_imp hmem
  have hafter : ∀ d after, cs.dropWhile (· ≠ '\x7d') = d :: after → d = '\x7d' := by
    intro d after hd
    have hhead := List.head?_dropWhile_not (· ≠ '\x7d') cs
    rw [hd] at hhead
    simpa using hhead
  rw [takeName?] at h
  generalize cs.takeWhile (· ≠ '\x7d') = before at h hsplit hbefore
  generalize cs.dropWhile (· ≠ '\x7d') = after at h hsplit hafter
  cases before with
  | nil => cases h
  | cons c before =>
    cases after with
    | nil => cases h
    | cons d after =>
      obtain ⟨rfl, rfl⟩ : c :: before = name ∧ after = rest := by simpa using h
      obtain rfl := hafter d after rfl
      exact ⟨hsplit.symm, List.cons_ne_nil _ _, hbefore⟩

theorem pieces_placeholder {name : List Char} (h : IsName name) (rest : List Char) :
    pieces ((Piece.placeholder name).text ++ rest) = .placeholder name :: pieces rest := by
  have htext : (Piece.placeholder name).text ++ rest =
      '$' :: '\x7b' :: (name ++ '\x7d' :: rest) := by simp [Piece.text]
  rw [htext]
  generalize hcs : name ++ '\x7d' :: rest = cs
  have htake : takeName? cs = some (name, rest) := hcs ▸ takeName?_append h rest
  rw [pieces]
  split
  · next heq =>
    obtain ⟨rfl, rfl⟩ := Prod.mk.inj (Option.some.inj (htake.symm.trans heq))
    rfl
  · next heq =>
    rw [htake] at heq
    cases heq

theorem pieces_cons (c : Char) (cs : List Char) :
    pieces (c :: cs) = .literal c :: pieces cs ∨
      ∃ name rest, c :: cs = (Piece.placeholder name).text ++ rest ∧ IsName name ∧
        pieces (c :: cs) = .placeholder name :: pieces rest := by
  generalize htext : c :: cs = text
  fun_cases pieces text with
  | case1 => cases htext
  | case2 cs name rest h =>
    obtain ⟨rfl, hname⟩ := eq_append_of_takeName? h
    exact .inr ⟨name, rest, by simp [Piece.text], hname, rfl⟩
  | case3 | case4 =>
    obtain ⟨rfl, rfl⟩ := List.cons.inj htext
    exact .inl rfl

theorem flatMap_text_pieces (cs : List Char) : (pieces cs).flatMap Piece.text = cs := by
  fun_induction pieces cs with
  | case1 => rfl
  | case2 cs name rest h ih =>
    obtain ⟨rfl, -⟩ := eq_append_of_takeName? h
    rw [List.flatMap_cons, ih]
    simp [Piece.text]
  | case3 cs h ih | case4 c cs h ih =>
    rw [List.flatMap_cons, ih]
    rfl

theorem isName_of_mem_pieces {name cs : List Char} (h : .placeholder name ∈ pieces cs) :
    IsName name := by
  fun_induction pieces cs with
  | case1 => cases h
  | case2 cs name' rest htake ih =>
    rcases List.mem_cons.mp h with heq | h
    · obtain rfl := Piece.placeholder.inj heq
      exact (eq_append_of_takeName? htake).2
    · exact ih h
  | case3 cs _ ih | case4 c cs _ ih => exact ih (by simpa using h)

/-- A scan that passes over the place of a placeholder has met another before. -/
theorem exists_mem_pieces (before : List Char) {name : List Char} (h : IsName name)
    (after : List Char) :
    ∃ found, .placeholder found ∈ pieces (before ++ ((Piece.placeholder name).text ++ after)) := by
  induction before with
  | nil =>
    rw [List.nil_append, pieces_placeholder h]
    exact ⟨name, List.mem_cons_self⟩
  | cons c before ih =>
    rw [List.cons_append]
    rcases pieces_cons c (before ++ ((Piece.placeholder name).text ++ after)) with
      hliteral | ⟨first, rest, -, -, hplaceholder⟩
    · obtain ⟨found, hmem⟩ := ih
      rw [hliteral]
      exact ⟨found, List.mem_cons_of_mem _ hmem⟩
    · rw [hplaceholder]
      exact ⟨first, List.mem_cons_self⟩

theorem flatMap_substituted_of_literal {cs : List Char}
    (h : ∀ name, .placeholder name ∉ pieces cs) (properties : Properties) :
    (pieces cs).flatMap (Piece.substituted properties) = cs := by
  have hliteral : ∀ p ∈ pieces cs, p.substituted properties = p.text := by
    intro p hp
    cases p with
    | literal c => rfl
    | placeholder name => exact absurd hp (h name)
  rw [List.flatMap_congr hliteral, flatMap_text_pieces]

end Placeholder

open Placeholder

namespace Properties

variable {low high : Properties}

/-- Keeps all that `low` defines. -/
def Extends (high low : Properties) : Prop :=
  ∀ k v : String, low[k]? = some v → high[k]? = some v

theorem extends_empty (p : Properties) : p.Extends ∅ := by
  intro k v h
  simp at h

end Properties

theorem Descriptor.scope_extends {base base' : Option Properties}
    (h : (base'.getD ∅).Extends (base.getD ∅)) (d : Descriptor) (ancestors : List Descriptor) :
    (d.scope ancestors base').Extends (d.scope ancestors base) := by
  intro name value hvalue
  rw [getElem?_scope, Option.or_eq_some_iff] at hvalue ⊢
  exact hvalue.imp_right (And.imp_right (h name value))

section Substitute

variable {s : String} {low high : Properties}

theorem hasPlaceholder_iff :
    hasPlaceholder s = true ↔ ∃ name, .placeholder name ∈ pieces s.toList := by
  rw [hasPlaceholder, List.any_eq_true]
  constructor
  · rintro ⟨p, hmem, hp⟩
    cases p with
    | literal c => cases hp
    | placeholder name => exact ⟨name, hmem⟩
  · rintro ⟨name, hmem⟩
    exact ⟨_, hmem, rfl⟩

theorem substitute_of_not_hasPlaceholder (h : hasPlaceholder s = false) (properties : Properties) :
    substitute s properties = s := by
  have hliteral : ∀ name, .placeholder name ∉ pieces s.toList := by
    intro name hname
    rw [hasPlaceholder_iff.mpr ⟨name, hname⟩] at h
    cases h
  rw [substitute, flatMap_substituted_of_literal hliteral, String.ofList_toList]

theorem exists_value_of_substitute (h : hasPlaceholder (substitute s low) = false)
    {name : List Char} (hname : .placeholder name ∈ pieces s.toList) :
    ∃ value, low[String.ofList name]? = some value := by
  by_contra hunknown
  have hnone : low[String.ofList name]? = none :=
    Option.eq_none_iff_forall_ne_some.mpr (not_exists.mp hunknown)
  obtain ⟨before, after, hsplit⟩ := List.append_of_mem hname
  -- an unknown placeholder is still there after substitution
  have htext : (substitute s low).toList = before.flatMap (Piece.substituted low) ++
      ((Piece.placeholder name).text ++ after.flatMap (Piece.substituted low)) := by
    rw [substitute, String.toList_ofList, hsplit, List.flatMap_append, List.flatMap_cons,
      Piece.substituted, hnone]
  have hfound := exists_mem_pieces (before.flatMap (Piece.substituted low))
    (isName_of_mem_pieces hname) (after.flatMap (Piece.substituted low))
  rw [← htext] at hfound
  rw [hasPlaceholder_iff.mpr hfound] at h
  cases h

theorem substitute_eq_of_extends (hext : high.Extends low)
    (h : hasPlaceholder (substitute s low) = false) : substitute s high = substitute s low := by
  have hsame : ∀ p ∈ pieces s.toList, p.substituted high = p.substituted low := by
    intro p hp
    cases p with
    | literal c => rfl
    | placeholder name =>
      obtain ⟨value, hvalue⟩ := exists_value_of_substitute h hp
      rw [Piece.substituted, Piece.substituted, hvalue, hext _ _ hvalue]
  rw [substitute, substitute, List.flatMap_congr hsame]

end Substitute

end Reactor
