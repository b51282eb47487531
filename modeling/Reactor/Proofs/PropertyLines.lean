import Reactor.Proofs.ConfigurationLayers
import Reactor.Proofs.TextParts

namespace Reactor

namespace Text

theorem lines_eq {cs last : List Char} {front : List (List Char)}
    (h : cut '\n' cs = front ++ [last]) :
    lines cs = front.map (fun l ↦ if l.getLast? = some '\r' then l.dropLast else l) ++
      if last = [] then [] else [last] := by
  rw [lines, h]
  cases last <;> simp

theorem trimList_dropLast_return {l : List Char} (h : l.getLast? = some '\r') :
    trimList l.dropLast = trimList l := by
  obtain ⟨front, rfl⟩ := List.getLast?_eq_some_iff.mp h
  have hblank : ∀ c ∈ ['\r'], isBlank c := by
    intro c hc
    rw [List.mem_singleton.mp hc]
    rfl
  rw [List.dropLast_concat, trimList_append_of_blank front hblank]

end Text

namespace Overlay

/-- A line that is no comment says `key = value` around its first equals sign; blanks around the
line, the key and the value do not count. -/
def Defines (line : List Char) (key value : String) : Prop :=
  (Text.trimList line).head? ≠ some '#' ∧
    ∃ before after, Text.trimList line = before ++ '=' :: after ∧ '=' ∉ before ∧
      key.toList = Text.trimList before ∧ value.toList = Text.trimList after

/-- The last line of a text that defines a key gives it this value. -/
def LastDefines (text key value : String) : Prop :=
  ∃ earlier line later, Text.lines text.toList = earlier ++ line :: later ∧
    Defines line key value ∧ ∀ l ∈ later, ∀ other, ¬ Defines l key other

theorem lineDefinition?_eq_some_iff {line : List Char} {key value : String} :
    lineDefinition? line = some (key, value) ↔ Defines line key value := by
  rw [lineDefinition?, Defines]
  by_cases hcomment : (Text.trimList line).head? = some '#'
  · simp [hcomment]
  · rw [if_neg (by simpa using hcomment), Option.map_eq_some_iff, Prod.exists]
    simp only [hcomment, ne_eq, not_false_eq_true, true_and, Text.cutFirst?_eq_some_iff,
      Prod.mk.injEq, and_assoc, ← String.toList_inj, String.toList_ofList,
      eq_comm (a := Text.trimList _)]

theorem lineDefinition?_congr {line other : List Char}
    (h : Text.trimList line = Text.trimList other) :
    lineDefinition? line = lineDefinition? other := by
  rw [lineDefinition?, lineDefinition?, h]

theorem propertyDefinitions_eq (text : String) :
    propertyDefinitions text = (Text.cut '\n' text.toList).filterMap lineDefinition? := by
  obtain ⟨front, last, hcut⟩ :=
    (List.eq_nil_or_concat' _).resolve_left (Text.cut_ne_nil '\n' text.toList)
  rw [propertyDefinitions, Text.lines_eq hcut, hcut, List.filterMap_append,
    List.filterMap_append, List.filterMap_map]
  congr 1
  · apply List.filterMap_congr
    intro line _
    apply lineDefinition?_congr
    dsimp only
    split
    · next hreturn => exact Text.trimList_dropLast_return hreturn
    · rfl
  · split
    · next hempty =>
      subst hempty
      rfl
    · rfl

theorem propertyDefinitions_append (text later : String) :
    propertyDefinitions (text ++ "\n" ++ later) =
      propertyDefinitions text ++ propertyDefinitions later := by
  have htext : (text ++ "\n" ++ later).toList = text.toList ++ '\n' :: later.toList := by simp
  rw [propertyDefinitions_eq, propertyDefinitions_eq, propertyDefinitions_eq, htext,
    Text.cut_append_cut, List.filterMap_append]

def lineValue? (key : String) (line : List Char) : Option String :=
  (lineDefinition? line).bind fun d ↦ if key = d.1 then some d.2 else none

theorem lineValue?_eq_some_iff {key value : String} {line : List Char} :
    lineValue? key line = some value ↔ Defines line key value := by
  rw [lineValue?, ← lineDefinition?_eq_some_iff, Option.bind_eq_some_iff]
  constructor
  · rintro ⟨⟨k, v⟩, hline, hv⟩
    obtain ⟨rfl, hv⟩ := Option.ite_none_right_eq_some.mp hv
    cases hv
    exact hline
  · intro hline
    exact ⟨(key, value), hline, if_pos rfl⟩

theorem lineValue?_eq_none_iff {key : String} {line : List Char} :
    lineValue? key line = none ↔ ∀ value, ¬ Defines line key value := by
  simp only [Option.eq_none_iff_forall_ne_some, ne_eq, lineValue?_eq_some_iff]

theorem lookup_filterMap_lineDefinition? (key : String) (lines : List (List Char)) :
    (lines.filterMap lineDefinition?).lookup key = lines.findSome? (lineValue? key) := by
  induction lines with
  | nil => rfl
  | cons line rest ih =>
    rw [List.filterMap_cons, List.findSome?_cons, ← ih, lineValue?]
    cases lineDefinition? line with
    | none => rfl
    | some d =>
      obtain ⟨k, v⟩ := d
      by_cases hkey : key = k
      · simp [hkey]
      · simp [List.lookup_cons, hkey, beq_false_of_ne hkey]

theorem lookup_reverse_propertyDefinitions (text key : String) :
    (propertyDefinitions text).reverse.lookup key =
      (Text.lines text.toList).reverse.findSome? (lineValue? key) := by
  rw [propertyDefinitions, ← List.filterMap_reverse, lookup_filterMap_lineDefinition?]

theorem lastDefines_iff {text key value : String} :
    LastDefines text key value ↔
      (Text.lines text.toList).reverse.findSome? (lineValue? key) = some value := by
  rw [findSome?_reverse_eq_some_iff, LastDefines]
  simp only [lineValue?_eq_some_iff, lineValue?_eq_none_iff]

/-- After a text of properties a key has the value that the last line which defines it gives it; a
key that no line defines keeps what it had. Two texts with a line feed between them do what the one
and then the other does. -/
theorem define_propertyDefinitions_exact (overlay : Overlay) :
    (∀ text key value, (overlay.define (propertyDefinitions text))[key]? = some value ↔
      LastDefines text key value ∨
        (∀ line ∈ Text.lines text.toList, ∀ other, ¬ Defines line key other) ∧
          overlay[key]? = some value) ∧
      ∀ text later, overlay.define (propertyDefinitions (text ++ "\n" ++ later)) =
        (overlay.define (propertyDefinitions text)).define (propertyDefinitions later) := by
  constructor
  · intro text key value
    have hnone : (Text.lines text.toList).reverse.findSome? (lineValue? key) = none ↔
        ∀ line ∈ Text.lines text.toList, ∀ other, ¬ Defines line key other := by
      simp only [List.findSome?_eq_none_iff, List.mem_reverse, lineValue?_eq_none_iff]
    rw [getElem?_define, lookup_reverse_propertyDefinitions, Option.or_eq_some_iff,
      ← lastDefines_iff, hnone]
  · intro text later
    rw [propertyDefinitions_append, define_append]

/-- A value may hold equals signs, a key may be empty, and blanks before a comment sign do not
count. -/
example : propertyDefinitions "a = 1\r\n \u2003#a=2\r\n= x = y\na" =
    [("a", "1"), ("", "x = y")] := by
  decide +kernel

end Overlay

end Reactor
