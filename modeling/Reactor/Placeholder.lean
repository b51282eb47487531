import Std.Data.TreeMap

namespace Reactor

abbrev Properties := Std.TreeMap String String

namespace Properties

/-- The entries of `high` win over those of `low`. -/
def layer (low high : Properties) : Properties :=
  high.foldl (fun m k v ↦ m.insert k v) low

end Properties

namespace Placeholder

def takeName? (cs : List Char) : Option (List Char × List Char) :=
  match cs.takeWhile (· ≠ '\x7d'), cs.dropWhile (· ≠ '\x7d') with
  | [], _ => none
  | _, [] => none
  | name, _ :: rest => some (name, rest)

theorem length_of_takeName? {cs name rest : List Char} (h : takeName? cs = some (name, rest)) :
    rest.length < cs.length := by
  simp only [takeName?] at h
  have split : cs.takeWhile (· ≠ '\x7d') ++ cs.dropWhile (· ≠ '\x7d') = cs :=
    List.takeWhile_append_dropWhile
  generalize cs.takeWhile (· ≠ '\x7d') = before at h split
  generalize cs.dropWhile (· ≠ '\x7d') = after at h split
  cases before with
  | nil => simp at h
  | cons c before =>
    cases after with
    | nil => simp at h
    | cons d after =>
      obtain ⟨-, rfl⟩ : c :: before = name ∧ after = rest := by simpa using h
      simp only [← split, List.length_append, List.length_cons]
      omega

inductive Piece
  | literal (c : Char)
  | placeholder (name : List Char)
  deriving DecidableEq, Repr

namespace Piece

def text : Piece → List Char
  | literal c => [c]
  | placeholder name => ['$', '\x7b'] ++ name ++ ['\x7d']

def substituted (properties : Properties) : Piece → List Char
  | literal c => [c]
  | placeholder name =>
    match properties[String.ofList name]? with
    | some value => value.toList
    | none => (placeholder name).text

def isPlaceholder : Piece → Bool
  | literal _ => false
  | placeholder _ => true

end Piece

def pieces : List Char → List Piece
  | [] => []
  | '$' :: '\x7b' :: cs =>
    match _h : takeName? cs with
    | some (name, rest) => .placeholder name :: pieces rest
    | none => .literal '$' :: pieces ('\x7b' :: cs)
  | c :: cs => .literal c :: pieces cs
termination_by cs => cs.length
decreasing_by
  · have := length_of_takeName? _h
    simp only [List.length_cons]
    omega
  all_goals simp

end Placeholder

open Placeholder

/-- All known placeholders are replaced in one pass, so the text of a value is never read again. -/
def substitute (input : String) (properties : Properties) : String :=
  String.ofList ((pieces input.toList).flatMap (Piece.substituted properties))

def hasPlaceholder (input : String) : Bool :=
  (pieces input.toList).any Piece.isPlaceholder

end Reactor
