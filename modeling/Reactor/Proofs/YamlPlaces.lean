import Mathlib.Data.List.Basic
import Reactor.Overlay

namespace Reactor

namespace Yaml

inductive Step
  | entry (position : Nat) (name : String)
  | item (position : Nat)

abbrev Place := List Step

namespace Step

def position : Step → Nat
  | entry n _ | item n => n

def text : Step → String
  | entry _ name => "." ++ name
  | item n => s!"[{n}]"

def path (above : String) : Step → String
  | entry _ name => Value.keyPath above name
  | item n => Value.itemPath above n

end Step

/-- Names are joined by points, and positions stand in brackets. -/
def placeText : Place → String
  | .entry _ name :: rest => name ++ String.join (rest.map Step.text)
  | place => String.join (place.map Step.text)

namespace Value

/-- The step to the value of an entry. Below a key that is no scalar there is nothing. -/
def entryChild? : (Value × Value) × Nat → Option (Step × Value)
  | ((k, v), n) => (scalarText? k).map fun name ↦ (.entry n name, v)

def children : Value → List (Step × Value)
  | sequence items => items.zipIdx.map fun (v, n) ↦ (.item n, v)
  | mapping entries => entries.zipIdx.filterMap entryChild?
  | _ => []

inductive Stands : Value → Place → Value → Prop
  | here {v : Value} : Stands v [] v
  | child {v c w : Value} {step : Step} {place : Place} :
      (step, c) ∈ v.children → Stands c place w → Stands v (step :: place) w
  | tagged {v w : Value} {place : Place} {tag : String} :
      Stands v place w → Stands (tagged tag v) place w

mutual

/-- Whether no key is an empty text, apart from those below keys that are no scalars. -/
def keysNamed : Value → Bool
  | mapping entries => entriesNamed entries
  | sequence items => itemsNamed items
  | tagged _ v => keysNamed v
  | _ => true

def itemsNamed : List Value → Bool
  | [] => true
  | v :: rest => keysNamed v && itemsNamed rest

def entriesNamed : List (Value × Value) → Bool
  | [] => true
  | (k, v) :: rest =>
    (match scalarText? k with
      | some name => !name.isEmpty && keysNamed v
      | none => true) && entriesNamed rest

end

end Value

section Paths

theorem Step.path_item (above : String) (n : Nat) :
    (Step.item n).path above = above ++ (Step.item n).text := by
  have htext : toString above = above := rfl
  simp [path, Value.itemPath, text, htext, String.append_assoc]

theorem Step.path_of_ne_empty {above : String} (h : above ≠ "") (step : Step) :
    step.path above = above ++ step.text := by
  cases step with
  | entry n name =>
    have htext (s : String) : toString s = s := rfl
    have hempty : above.isEmpty = false := by simpa using h
    simp [path, Value.keyPath, hempty, text, htext, String.append_assoc]
  | item n => exact path_item above n

theorem foldl_path {above : String} (h : above ≠ "") (place : Place) :
    place.foldl Step.path above = above ++ String.join (place.map Step.text) := by
  induction place generalizing above with
  | nil => simp
  | cons step rest ih =>
    have hnext : above ++ step.text ≠ "" := by simp [h]
    rw [List.foldl_cons, step.path_of_ne_empty h, ih hnext, List.map_cons, String.join_cons,
      String.append_assoc]

/-- Where keys are named, the path that the walk down to a place spells is the text of the place. -/
theorem foldl_path_of_named {place : Place} (hplace : place ≠ [])
    (h : ∀ n, Step.entry n "" ∉ place) :
    place.foldl Step.path "" = placeText place ∧ placeText place ≠ "" := by
  obtain ⟨step, rest, rfl⟩ := List.exists_cons_of_ne_nil hplace
  cases step with
  | entry n name =>
    have hname : name ≠ "" := by
      rintro rfl
      exact h n List.mem_cons_self
    have hpath : (Step.entry n name).path "" = name := rfl
    rw [List.foldl_cons, hpath, foldl_path hname, placeText]
    simp [hname]
  | item n =>
    have hpath : (Step.item n).path "" = (Step.item n).text := by
      rw [Step.path_item, String.empty_append]
    have hne : (Step.item n).text ≠ "" := by simp [Step.text]
    rw [List.foldl_cons, hpath, foldl_path hne, placeText, List.map_cons, String.join_cons]
    · simp [hne]
    · simp

end Paths

theorem zipIdx_increasing {α : Type} (xs : List α) (n : Nat) :
    (xs.zipIdx n).Pairwise (·.2 < ·.2) := by
  have h : (List.range' n xs.length).Pairwise (· < ·) := List.pairwise_lt_range'
  rw [← List.zipIdx_map_snd, List.pairwise_map] at h
  exact h

namespace Value

theorem children_increasing (v : Value) : v.children.Pairwise (·.1.position < ·.1.position) := by
  cases v with
  | sequence items => exact List.pairwise_map.mpr (zipIdx_increasing items 0)
  | mapping entries =>
    refine List.pairwise_filterMap.mpr ((zipIdx_increasing entries 0).imp ?_)
    intro a b hlt c hc d hd
    obtain ⟨name, -, rfl⟩ := Option.map_eq_some_iff.mp hc
    obtain ⟨name', -, rfl⟩ := Option.map_eq_some_iff.mp hd
    exact hlt
  | _ => exact .nil

theorem sizeOf_children {v : Value} {c : Step × Value} (h : c ∈ v.children) :
    sizeOf c.2 < sizeOf v := by
  cases v with
  | sequence items =>
    obtain ⟨⟨w, n⟩, hw, rfl⟩ := List.mem_map.mp h
    have hlt : sizeOf w < sizeOf items := List.sizeOf_lt_of_mem (List.fst_mem_of_mem_zipIdx hw)
    simp only [sequence.sizeOf_spec]
    omega
  | mapping entries =>
    obtain ⟨⟨⟨k, w⟩, n⟩, hw, hc⟩ := List.mem_filterMap.mp h
    obtain ⟨name, -, rfl⟩ := Option.map_eq_some_iff.mp hc
    have hlt := List.sizeOf_lt_of_mem (List.fst_mem_of_mem_zipIdx hw)
    simp only [mapping.sizeOf_spec, Prod.mk.sizeOf_spec] at hlt ⊢
    omega
  | _ => cases h

def positioned : Value → List (Place × String)
  | tagged _ v => positioned v
  | v => (scalarText? v).toList.map ([], ·) ++
    v.children.attach.flatMap fun c ↦ (positioned c.1.2).map fun leaf ↦ (c.1.1 :: leaf.1, leaf.2)
termination_by v => sizeOf v
decreasing_by
  · decreasing_tactic
  · exact sizeOf_children c.2

variable {v : Value}

theorem positioned_eq (hv : ∀ tag w, v = tagged tag w → False) :
    v.positioned = (scalarText? v).toList.map ([], ·) ++
      v.children.flatMap fun c ↦ c.2.positioned.map fun leaf ↦ (c.1 :: leaf.1, leaf.2) := by
  rw [positioned.eq_2 v hv]
  conv_rhs => rw [← List.attach_map_subtype_val v.children, List.flatMap_map]

theorem itemLeaves_eq (above : String) (n : Nat) (items : List Value) :
    itemLeaves above n items =
      (items.zipIdx n).flatMap fun (v, i) ↦ v.leaves (itemPath above i) := by
  induction items generalizing n with
  | nil => rfl
  | cons v rest ih => rw [itemLeaves, ih, List.zipIdx_cons, List.flatMap_cons]

theorem entryLeaves_eq (above : String) (n : Nat) (entries : List (Value × Value)) :
    entryLeaves above entries =
      ((entries.zipIdx n).filterMap entryChild?).flatMap fun c ↦ c.2.leaves (c.1.path above) := by
  induction entries generalizing n with
  | nil => rfl
  | cons e rest ih =>
    obtain ⟨k, v⟩ := e
    rw [entryLeaves, ih (n + 1), List.zipIdx_cons, List.filterMap_cons]
    cases hk : scalarText? k <;> simp [entryChild?, hk, Step.path]

theorem leaves_eq (above : String) (hv : ∀ tag w, v = tagged tag w → False) :
    v.leaves above = (if above.isEmpty then [] else (scalarText? v).toList.map (above, ·)) ++
      v.children.flatMap fun c ↦ c.2.leaves (c.1.path above) := by
  cases v with
  | sequence items =>
    rw [leaves, itemLeaves_eq, children, List.flatMap_map]
    simp [scalarText?, Step.path]
  | mapping entries =>
    rw [leaves, entryLeaves_eq above 0]
    simp [scalarText?, children]
  | tagged tag w => exact (hv tag w rfl).elim
  | _ => simp [leaves, scalarText?, children]

def definition? (above : String) (leaf : Place × String) : Option Definition :=
  let path := leaf.1.foldl Step.path above
  if path.isEmpty then none else some (path, leaf.2)

theorem leaves_eq_filterMap (above : String) (v : Value) :
    v.leaves above = v.positioned.filterMap (definition? above) := by
  induction v using positioned.induct generalizing above with
  | case1 tag v ih => rw [leaves, positioned, ih]
  | case2 v hv ih =>
    rw [leaves_eq above hv, positioned_eq hv, List.filterMap_append, List.filterMap_flatMap]
    congr 1
    · cases scalarText? v <;> by_cases h : above.isEmpty <;> simp [definition?, h]
    · refine List.flatMap_congr fun c hc ↦ ?_
      rw [ih ⟨c, hc⟩, List.filterMap_map]
      rfl

theorem mem_positioned {place : Place} {text : String} :
    (place, text) ∈ v.positioned ↔ ∃ w, v.Stands place w ∧ w.scalarText? = some text := by
  constructor
  · intro h
    induction v using positioned.induct generalizing place with
    | case1 tag v ih =>
      rw [positioned] at h
      obtain ⟨w, hw, htext⟩ := ih h
      exact ⟨w, .tagged hw, htext⟩
    | case2 v hv ih =>
      rw [positioned_eq hv] at h
      rcases List.mem_append.mp h with hown | hbelow
      · obtain ⟨t, ht, heq⟩ := List.mem_map.mp hown
        cases heq
        exact ⟨v, .here, Option.mem_toList.mp ht⟩
      · obtain ⟨c, hc, hmem⟩ := List.mem_flatMap.mp hbelow
        obtain ⟨leaf, hleaf, heq⟩ := List.mem_map.mp hmem
        cases heq
        obtain ⟨w, hw, htext⟩ := ih ⟨c, hc⟩ hleaf
        exact ⟨w, .child hc hw, htext⟩
  · rintro ⟨w, hw, htext⟩
    induction hw with
    | @here v =>
      have hv : ∀ tag w, v = tagged tag w → False := by
        rintro tag w rfl
        cases htext
      rw [positioned_eq hv]
      simp [htext]
    | @child v c w step place hc _ ih =>
      have hv : ∀ tag w, v = tagged tag w → False := by
        rintro tag w rfl
        cases hc
      rw [positioned_eq hv]
      refine List.mem_append_right _ (List.mem_flatMap.mpr ⟨(step, c), hc, ?_⟩)
      exact List.mem_map_of_mem (ih htext)
    | tagged _ ih =>
      rw [positioned]
      exact ih htext

theorem positioned_increasing (v : Value) :
    v.positioned.Pairwise (·.1.map Step.position < ·.1.map Step.position) := by
  induction v using positioned.induct with
  | case1 tag v ih => rwa [positioned]
  | case2 v hv ih =>
    rw [positioned_eq hv, List.pairwise_append, List.pairwise_flatMap]
    refine ⟨?_, ⟨?_, ?_⟩, ?_⟩
    · cases scalarText? v <;> simp
    · intro c hc
      refine List.pairwise_map.mpr ((ih ⟨c, hc⟩).imp fun h ↦ ?_)
      simpa using h
    -- scalars below different children differ in their first step
    · refine v.children_increasing.imp fun {c d} hlt x hx y hy ↦ ?_
      obtain ⟨x, -, rfl⟩ := List.mem_map.mp hx
      obtain ⟨y, -, rfl⟩ := List.mem_map.mp hy
      exact List.cons_lt_cons_iff.mpr (.inl hlt)
    -- the place of the value itself is empty
    · intro x hx y hy
      obtain ⟨t, -, rfl⟩ := List.mem_map.mp hx
      obtain ⟨c, -, hmem⟩ := List.mem_flatMap.mp hy
      obtain ⟨y, -, rfl⟩ := List.mem_map.mp hmem
      exact List.nil_lt_cons _ _

theorem itemsNamed_iff (items : List Value) :
    itemsNamed items = true ↔ ∀ v ∈ items, v.keysNamed = true := by
  induction items with
  | nil => simp [itemsNamed]
  | cons v rest ih => simp [itemsNamed, ih]

theorem entriesNamed_iff (entries : List (Value × Value)) :
    entriesNamed entries = true ↔
      ∀ e ∈ entries, ∀ name, scalarText? e.1 = some name → name ≠ "" ∧ e.2.keysNamed = true := by
  induction entries with
  | nil => simp [entriesNamed]
  | cons e rest ih =>
    obtain ⟨k, v⟩ := e
    cases hk : scalarText? k <;> simp [entriesNamed, ih, hk]

theorem children_named {c : Step × Value} (hv : v.keysNamed = true) (hc : c ∈ v.children) :
    (∀ n, c.1 ≠ .entry n "") ∧ c.2.keysNamed = true := by
  cases v with
  | sequence items =>
    obtain ⟨⟨w, n⟩, hw, rfl⟩ := List.mem_map.mp hc
    have hnamed := (itemsNamed_iff items).mp hv w (List.fst_mem_of_mem_zipIdx hw)
    exact ⟨fun n h ↦ Step.noConfusion h, hnamed⟩
  | mapping entries =>
    obtain ⟨⟨⟨k, w⟩, n⟩, hw, hc⟩ := List.mem_filterMap.mp hc
    obtain ⟨name, hname, rfl⟩ := Option.map_eq_some_iff.mp hc
    obtain ⟨hne, hnamed⟩ :=
      (entriesNamed_iff entries).mp hv (k, w) (List.fst_mem_of_mem_zipIdx hw) name hname
    refine ⟨?_, hnamed⟩
    rintro n' h
    cases h
    exact hne rfl
  | _ => cases hc

theorem Stands.named {w : Value} {place : Place} (h : v.Stands place w)
    (hv : v.keysNamed = true) : ∀ n, Step.entry n "" ∉ place := by
  induction h with
  | here => exact fun n ↦ List.not_mem_nil
  | child hc _ ih =>
    obtain ⟨hstep, hnamed⟩ := children_named hv hc
    intro n hmem
    rcases List.mem_cons.mp hmem with heq | hrest
    · exact hstep n heq.symm
    · exact ih hnamed n hrest
  | tagged _ ih => exact ih hv

end Value

end Yaml

end Reactor
