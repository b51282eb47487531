import Reactor.Descriptor

namespace Reactor.Xml

mutual

def Node.bare : Node → Node
  | .element e => .element e.bare
  | .text content => .text content
  | .comment => .comment
  | .instruction => .instruction

def Element.bare : Element → Element
  | .mk name _ _ children => .mk name [] [] (bareAll children)

def bareAll : List Node → List Node
  | [] => []
  | node :: nodes => node.bare :: bareAll nodes

end

theorem bareAll_eq_map (nodes : List Node) : bareAll nodes = nodes.map Node.bare := by
  induction nodes with
  | nil => rfl
  | cons node nodes ih => rw [bareAll, ih, List.map_cons]

theorem bare_addText (content : List Char) (nodes : List Node) :
    (addText content nodes).map Node.bare = addText content (nodes.map Node.bare) := by
  match nodes with
  | [] => rfl
  | .text _ :: _ => rfl
  | .element _ :: _ => rfl
  | .comment :: _ => rfl
  | .instruction :: _ => rfl

namespace Element

variable (e : Element)

@[simp]
theorem name_bare : e.bare.name = e.name := by
  cases e
  rfl

theorem children_bare : e.bare.children = e.children.map Node.bare := by
  cases e with
  | mk name input rest children => exact bareAll_eq_map children

theorem elements_bare : e.bare.elements = e.elements.map bare := by
  rw [elements, elements, children_bare, List.filterMap_map, List.map_filterMap]
  congr 1
  funext node
  cases node <;> rfl

section SameNames

variable {f : Element → Element} (hf : ∀ c, (f c).name = c.name) {e e' : Element}
  (h : e'.elements = e.elements.map f) (name : String)
include hf h

theorem child?_of_map : e'.child? name = (e.child? name).map f := by
  rw [child?, child?, h, List.find?_map]
  simp only [Function.comp_def, hf]

theorem childrenNamed_of_map : e'.childrenNamed name = (e.childrenNamed name).map f := by
  rw [childrenNamed, childrenNamed, h, List.filter_map]
  simp only [Function.comp_def, hf]

end SameNames

@[simp]
theorem child?_bare (name : String) : e.bare.child? name = (e.child? name).map bare :=
  child?_of_map name_bare e.elements_bare name

@[simp]
theorem childrenNamed_bare (name : String) :
    e.bare.childrenNamed name = (e.childrenNamed name).map bare :=
  childrenNamed_of_map name_bare e.elements_bare name

@[simp]
theorem text?_bare : e.bare.text? = e.text? := by
  rw [text?, text?, children_bare, List.head?_map, Option.bind_map]
  congr 1
  funext node
  cases node <;> rfl

def treeOf (cs : List Char) : Except Malformed Element := (ofText cs).map bare

theorem treeOf_eq_ok_iff {cs : List Char} {tree : Element} :
    treeOf cs = .ok tree ↔ ∃ root, ofText cs = .ok root ∧ root.bare = tree := by
  rw [treeOf]
  cases ofText cs <;> simp [Except.map]

end Element

mutual

def Node.same : Node → Node → Bool
  | .element e, .element f => e.same f
  | .text content, .text other => content == other
  | .comment, .comment | .instruction, .instruction => true
  | _, _ => false

def Element.same : Element → Element → Bool
  | .mk name input rest children, .mk name' input' rest' children' =>
    name == name' && input == input' && rest == rest' && sameAll children children'

def sameAll : List Node → List Node → Bool
  | [], [] => true
  | node :: nodes, other :: others => node.same other && sameAll nodes others
  | _, _ => false

end

mutual

theorem Node.same_iff : ∀ a b : Node, a.same b ↔ a = b
  | .element e, b => by
    cases b with
    | element f => rw [Node.same, Node.element.injEq]; exact Element.same_iff e f
    | text | comment | instruction => simp [Node.same]
  | .text content, b => by cases b <;> simp [Node.same]
  | .comment, b | .instruction, b => by cases b <;> simp [Node.same]

theorem Element.same_iff : ∀ e f : Element, e.same f ↔ e = f
  | .mk name input rest children, .mk name' input' rest' children' => by
    simp [Element.same, and_assoc, sameAll_iff children children']

theorem sameAll_iff : ∀ nodes others : List Node, sameAll nodes others ↔ nodes = others
  | [], others => by cases others <;> simp [sameAll]
  | node :: nodes, others => by
    cases others with
    | nil => simp [sameAll]
    | cons other others => simp [sameAll, node.same_iff other, sameAll_iff nodes others]

end

instance : DecidableEq Element := fun e f ↦ decidable_of_iff _ (e.same_iff f)

end Reactor.Xml

namespace Reactor.Descriptor

open Xml (Element)

variable (e : Element)

@[simp]
theorem textOf_bare : textOf e.bare = textOf e := by
  rw [textOf, textOf, Element.text?_bare]

@[simp]
theorem childText_bare (name : String) : childText e.bare name = childText e name := by
  have htextOf : textOf ∘ Element.bare = textOf := funext textOf_bare
  rw [childText, Element.child?_bare, Option.bind_map, htextOf, childText]

@[simp]
theorem readCoordinate_bare : readCoordinate e.bare = readCoordinate e := by
  simp [readCoordinate]

@[simp]
theorem readDependencies_bare : readDependencies e.bare = readDependencies e := by
  simp [readDependencies, Function.comp_def]

@[simp]
theorem readProperties_bare : readProperties e.bare = readProperties e := by
  simp [readProperties, Element.elements_bare, List.foldl_map]

@[simp]
theorem readParent_bare : readParent e.bare = readParent e := by
  simp [readParent]

theorem ofProject_bare (path : Path) : ofProject path e.bare = ofProject path e := by
  simp [ofProject, Function.comp_def, List.filterMap_map, Option.bind_map]

theorem ofText_of_treeOf (path : Path) {text : String} {tree : Element}
    (h : Element.treeOf text.toList = .ok tree) : ofText path text = ofRoot path tree := by
  obtain ⟨root, hroot, rfl⟩ := Element.treeOf_eq_ok_iff.mp h
  rw [ofText, hroot]
  dsimp only
  rw [ofRoot, ofRoot, Element.name_bare, ofProject_bare]

end Reactor.Descriptor
