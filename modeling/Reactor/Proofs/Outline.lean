import Mathlib.Data.List.Basic
import Reactor.Proofs.XmlPlaces

namespace Reactor.Xml

def Element.leadText (e : Element) : List Char := e.text?.getD []

end Reactor.Xml

namespace Reactor.Descriptor

open Xml (Element Node)

inductive Place
  | project
  | parent
  | modules
  | dependencies
  | dependency
  | management
  | build
  | plugins
  | plugin
  | properties
  | value
  deriving DecidableEq

namespace Place

def coordinateNames : List (String × Place) :=
  [("groupId", value), ("artifactId", value), ("version", value)]

def names : Place → List (String × Place)
  | project => coordinateNames ++
    [("packaging", value), ("parent", parent), ("modules", modules),
      ("dependencies", dependencies), ("dependencyManagement", management), ("build", build),
      ("properties", properties)]
  | parent => coordinateNames ++ [("relativePath", value)]
  | modules => [("module", value)]
  | dependencies => [("dependency", dependency)]
  | dependency => coordinateNames ++ [("scope", value), ("type", value)]
  | management => [("dependencies", dependencies)]
  | build => [("plugins", plugins)]
  | plugins => [("plugin", plugin)]
  | plugin => coordinateNames
  | properties | value => []

/-- The place of a child of some name, if it is read; each child of the properties is. -/
def child? : Place → String → Option Place
  | properties, _ => some value
  | place, name => place.names.lookup name

end Place

/-- What is read of an element: its text at the place of a value, and else the elements in it whose
names are read. -/
inductive Outline
  | value (name : String) (text : List Char)
  | group (name : String) (members : List Outline)

namespace Outline

def name : Outline → String
  | value name _ => name
  | group name _ => name

def text : Outline → List Char
  | value _ text => text
  | group .. => []

def members : Outline → List Outline
  | value .. => []
  | group _ members => members

end Outline

mutual

def outline (place : Place) : Element → Outline
  | .mk name input rest children =>
    if place = .value then
      .value name (Text.trimList (Element.mk name input rest children).leadText)
    else .group name (outlines place children)

def outlines (place : Place) : List Node → List Outline
  | [] => []
  | .element e :: nodes =>
    match place.child? e.name with
    | some inner => outline inner e :: outlines place nodes
    | none => outlines place nodes
  | .text _ :: nodes | .comment :: nodes | .instruction :: nodes => outlines place nodes

end

section Members

variable {place inner : Place} {name : String} (e : Element)

@[simp]
theorem name_outline : (outline place e).name = e.name := by
  cases e
  rw [outline]
  split <;> rfl

def member? (place : Place) (e : Element) : Option Outline :=
  (place.child? e.name).map (outline · e)

theorem outlines_eq (nodes : List Node) :
    outlines place nodes = (nodes.filterMap Node.element?).filterMap (member? place) := by
  induction nodes with
  | nil => rfl
  | cons node nodes ih =>
    cases node with
    | element e =>
      have hnodes : (Node.element e :: nodes).filterMap Node.element? =
          e :: nodes.filterMap Node.element? := rfl
      rw [outlines, hnodes, List.filterMap_cons, member?, ih]
      cases place.child? e.name <;> rfl
    | text | comment | instruction => exact ih

theorem outline_value : outline .value e = .value e.name (Text.trimList e.leadText) := by
  cases e
  rfl

theorem outline_group (h : place ≠ .value) :
    outline place e = .group e.name (e.elements.filterMap (member? place)) := by
  cases e
  rw [outline, if_neg h, outlines_eq]
  rfl

theorem members_outline (h : place ≠ .value) :
    (outline place e).members = e.elements.filterMap (member? place) := by
  rw [outline_group e h, Outline.members]

theorem ne_value_of_child? (h : place.child? name = some inner) : place ≠ .value := by
  rintro rfl
  cases h

theorem any_member? (h : place.child? name = some inner) :
    (member? place e).any (·.name == name) = (e.name == name) := by
  by_cases hname : e.name = name
  · simp [member?, hname, h]
  · cases hother : place.child? e.name <;> simp [member?, hother, hname]

theorem member?_eq (h : place.child? name = some inner) {c : Element} (hc : c.name = name) :
    member? place c = some (outline inner c) := by
  rw [member?, hc, h, Option.map_some]

theorem find?_members_outline (h : place.child? name = some inner) :
    (outline place e).members.find? (·.name == name) = (e.child? name).map (outline inner) := by
  rw [members_outline e (ne_value_of_child? h), List.find?_filterMap]
  simp only [any_member? _ h]
  rw [Element.child?]
  cases hfound : e.elements.find? (·.name == name) with
  | none => rfl
  | some c =>
    have hc := List.find?_some hfound
    exact member?_eq h (beq_iff_eq.mp hc)

theorem filter_members_outline (h : place.child? name = some inner) :
    (outline place e).members.filter (·.name == name) =
      (e.childrenNamed name).map (outline inner) := by
  rw [members_outline e (ne_value_of_child? h), List.filter_filterMap, Element.childrenNamed,
    ← List.filterMap_eq_map, List.filterMap_filter]
  refine List.filterMap_congr fun c _ ↦ ?_
  by_cases hc : c.name = name
  · simp [member?_eq h hc, Option.filter_some, hc]
  · cases hother : place.child? c.name <;> simp [member?, hother, Option.filter_some, hc]

theorem members_outline_properties :
    (outline .properties e).members = e.elements.map (outline .value) := by
  rw [members_outline e (by decide), ← List.filterMap_eq_map]
  rfl

end Members

def IsReadAt {α : Type} (place : Place) (read : Element → α) : Prop :=
  ∃ ofOutline : Outline → α, ∀ e, read e = ofOutline (outline place e)

namespace IsReadAt

variable {α β : Type} {place inner : Place} {name : String} {read : Element → α}

theorem eq (h : IsReadAt place read) {e e' : Element} (hsame : outline place e = outline place e') :
    read e = read e' := by
  obtain ⟨ofOutline, h⟩ := h
  rw [h, h, hsame]

theorem const (place : Place) (a : α) : IsReadAt place fun _ ↦ a := ⟨fun _ ↦ a, fun _ ↦ rfl⟩

theorem map (h : IsReadAt place read) (f : α → β) : IsReadAt place fun e ↦ f (read e) := by
  obtain ⟨ofOutline, h⟩ := h
  exact ⟨fun o ↦ f (ofOutline o), fun e ↦ congrArg f (h e)⟩

theorem apply {make : Element → α → β} (h : IsReadAt place make) (h' : IsReadAt place read) :
    IsReadAt place fun e ↦ make e (read e) := by
  obtain ⟨ofOutline, h⟩ := h
  obtain ⟨ofOutline', h'⟩ := h'
  exact ⟨fun o ↦ ofOutline o (ofOutline' o), fun e ↦ congr (h e) (h' e)⟩

theorem child (hname : place.child? name = some inner) (h : IsReadAt inner read) :
    IsReadAt place fun e ↦ (e.child? name).map read := by
  obtain ⟨ofOutline, h⟩ := h
  refine ⟨fun o ↦ (o.members.find? (·.name == name)).map ofOutline, fun e ↦ ?_⟩
  dsimp only
  rw [find?_members_outline e hname, Option.map_map]
  congr 1
  funext c
  exact h c

theorem bindChild {read : Element → Option α} (hname : place.child? name = some inner)
    (h : IsReadAt inner read) : IsReadAt place fun e ↦ (e.child? name).bind read := by
  have hjoin (e : Element) : ((e.child? name).map read).join = (e.child? name).bind read := by
    cases e.child? name <;> rfl
  simpa only [hjoin] using (h.child hname).map Option.join

theorem children (hname : place.child? name = some inner) (h : IsReadAt inner read) :
    IsReadAt place fun e ↦ (e.childrenNamed name).map read := by
  obtain ⟨ofOutline, h⟩ := h
  refine ⟨fun o ↦ (o.members.filter (·.name == name)).map ofOutline, fun e ↦ ?_⟩
  dsimp only
  rw [filter_members_outline e hname, List.map_map]
  congr 1
  funext c
  exact h c

end IsReadAt

section Readers

variable {place : Place}

theorem textOf_eq (e : Element) :
    textOf e =
      if Text.trimList e.leadText = [] then none
      else some (String.ofList (Text.trimList e.leadText)) := by
  rw [textOf, Element.leadText]
  cases e.text? with
  | none => rfl
  | some cs =>
    rw [Option.bind_some, Option.getD_some, Text.trimmed?, String.toList_ofList]
    split <;> simp_all

theorem readProperties_eq (e : Element) :
    readProperties e = e.elements.foldl
      (fun m c ↦ m.insert c.name (String.ofList (Text.trimList c.leadText))) ∅ := by
  rw [readProperties]
  congr 1
  funext m c
  rw [Element.leadText]
  cases c.text? <;> rfl

theorem isReadAt_textOf : IsReadAt .value textOf := by
  refine ⟨fun o ↦ if o.text = [] then none else some (String.ofList o.text), fun e ↦ ?_⟩
  dsimp only
  rw [outline_value, Outline.text, textOf_eq]

theorem isReadAt_childText {name : String} (h : place.child? name = some .value) :
    IsReadAt place (childText · name) :=
  isReadAt_textOf.bindChild h

theorem isReadAt_readCoordinate (hgroup : place.child? "groupId" = some .value)
    (hartifact : place.child? "artifactId" = some .value)
    (hversion : place.child? "version" = some .value) : IsReadAt place readCoordinate := by
  have hgroup := (isReadAt_childText hgroup).map (·.getD "")
  have hartifact := (isReadAt_childText hartifact).map (·.getD "")
  exact (((IsReadAt.const place Coordinate.mk).apply hgroup).apply hartifact).apply
    (isReadAt_childText hversion)

theorem isReadAt_readDependencies : IsReadAt .dependencies readDependencies := by
  have hcoordinate : IsReadAt .dependency readCoordinate :=
    isReadAt_readCoordinate (by decide) (by decide) (by decide)
  have hscope : IsReadAt .dependency (childText · "scope") := isReadAt_childText (by decide)
  have htype : IsReadAt .dependency (childText · "type") := isReadAt_childText (by decide)
  exact ((((IsReadAt.const .dependency Dependency.mk).apply hcoordinate).apply hscope).apply
    htype).children (by decide)

theorem isReadAt_readParent : IsReadAt .parent readParent := by
  have hcoordinate : IsReadAt .parent readCoordinate :=
    isReadAt_readCoordinate (by decide) (by decide) (by decide)
  have hpath : IsReadAt .parent (childText · "relativePath") := isReadAt_childText (by decide)
  exact ((IsReadAt.const .parent ParentRef.mk).apply hcoordinate).apply hpath

theorem isReadAt_modules :
    IsReadAt .modules fun e ↦ (e.childrenNamed "module").filterMap textOf := by
  have htexts : IsReadAt .modules fun e ↦ (e.childrenNamed "module").map textOf :=
    isReadAt_textOf.children (by decide)
  simpa only [List.filterMap_map, Function.id_comp] using htexts.map (List.filterMap id)

theorem isReadAt_plugins :
    IsReadAt .plugins fun e ↦ (e.childrenNamed "plugin").map readCoordinate := by
  have hplugin : IsReadAt .plugin readCoordinate :=
    isReadAt_readCoordinate (by decide) (by decide) (by decide)
  exact hplugin.children (by decide)

theorem isReadAt_readProperties : IsReadAt .properties readProperties := by
  refine ⟨fun o ↦ o.members.foldl (fun m v ↦ m.insert v.name (String.ofList v.text)) ∅, fun e ↦ ?_⟩
  dsimp only
  rw [members_outline_properties, List.foldl_map, readProperties_eq]
  congr 1
  funext m c
  rw [outline_value, Outline.name, Outline.text]

theorem isReadAt_ofProject (path : Path) : IsReadAt .project (ofProject path) := by
  have hparent : IsReadAt .project fun e ↦ (e.child? "parent").map readParent :=
    isReadAt_readParent.child (by decide)
  have hown : IsReadAt .project readCoordinate :=
    isReadAt_readCoordinate (by decide) (by decide) (by decide)
  have hcoordinate := ((IsReadAt.const .project inheritCoordinate).apply hown).apply hparent
  have hpackaging : IsReadAt .project (childText · "packaging") := isReadAt_childText (by decide)
  have hmodules : IsReadAt .project fun e ↦ (e.child? "modules").map fun e ↦
      (e.childrenNamed "module").filterMap textOf := isReadAt_modules.child (by decide)
  have hdependencies : IsReadAt .project fun e ↦ (e.child? "dependencies").map readDependencies :=
    isReadAt_readDependencies.child (by decide)
  have hmanagement : IsReadAt .management fun e ↦ (e.child? "dependencies").map readDependencies :=
    isReadAt_readDependencies.child (by decide)
  have hmanaged : IsReadAt .project fun e ↦ (e.child? "dependencyManagement").bind fun e ↦
      (e.child? "dependencies").map readDependencies := hmanagement.bindChild (by decide)
  have hbuild : IsReadAt .build fun e ↦ (e.child? "plugins").map fun e ↦
      (e.childrenNamed "plugin").map readCoordinate := isReadAt_plugins.child (by decide)
  have hplugins : IsReadAt .project fun e ↦ (e.child? "build").bind fun e ↦
      (e.child? "plugins").map fun e ↦ (e.childrenNamed "plugin").map readCoordinate :=
    hbuild.bindChild (by decide)
  have hproperties : IsReadAt .project fun e ↦ (e.child? "properties").map readProperties :=
    isReadAt_readProperties.child (by decide)
  have hread := (IsReadAt.const .project (Descriptor.mk path)).apply hcoordinate
  have hread := ((hread.apply hparent).apply hpackaging).apply (hmodules.map (·.getD []))
  have hread := (hread.apply (hdependencies.map (·.getD []))).apply (hmanaged.map (·.getD []))
  exact (hread.apply (hplugins.map (·.getD []))).apply (hproperties.map (·.getD ∅))

theorem ofRoot_eq_of_outline (path : Path) {e e' : Element}
    (hsame : outline .project e' = outline .project e) : ofRoot path e' = ofRoot path e := by
  have hname : e'.name = e.name := by
    rw [← name_outline e', hsame, name_outline]
  rw [ofRoot, ofRoot, hname, (isReadAt_ofProject path).eq hsame]

end Readers

end Reactor.Descriptor
