import Mathlib.Data.List.Basic
import Reactor.Proofs.Outline
import Reactor.Proofs.PropertyLayers
import Reactor.Proofs.TextParts

namespace Reactor.Xml

def consText (content : List Char) : List Node → List Node
  | .text after :: rest => .text (content ++ after) :: rest
  | nodes => .text content :: nodes

mutual

/-- An element as it is without the comments in it. -/
def Element.uncommented : Element → Element
  | .mk name input rest children => .mk name input rest (uncommentAll children)

def uncommentAll : List Node → List Node
  | [] => []
  | .element e :: nodes => .element e.uncommented :: uncommentAll nodes
  | .text content :: nodes => consText content (uncommentAll nodes)
  | .comment :: nodes => uncommentAll nodes
  | .instruction :: nodes => .instruction :: uncommentAll nodes

end

/-- The text in front of all elements, with the comments in it left out. -/
def wholeText : List Node → List Char
  | .text content :: nodes => content ++ wholeText nodes
  | .comment :: nodes => wholeText nodes
  | _ => []

/-- The part of that text that is no first child, so that a comment hides it. -/
def hiddenText : List Node → List Char
  | .text _ :: nodes => wholeText nodes
  | nodes => wholeText nodes

namespace Element

variable (e : Element)

/-- No text of the element stands behind a comment, blanks apart. -/
def HidesNothing : Prop := ∀ c ∈ hiddenText e.children, Text.isBlank c

instance : Decidable e.HidesNothing := List.decidableBAll _ (hiddenText e.children)

@[simp]
theorem name_uncommented : e.uncommented.name = e.name := by
  cases e
  rfl

theorem children_uncommented : e.uncommented.children = uncommentAll e.children := by
  cases e
  rfl

theorem elements_consText (content : List Char) (nodes : List Node) :
    (consText content nodes).filterMap Node.element? = nodes.filterMap Node.element? := by
  match nodes with
  | [] | .text _ :: _ | .element _ :: _ | .comment :: _ | .instruction :: _ => rfl

theorem elements_uncommented : e.uncommented.elements = e.elements.map uncommented := by
  rw [elements, elements, children_uncommented]
  induction e.children with
  | nil => rfl
  | cons node nodes ih =>
    cases node with
    | element e =>
      rw [uncommentAll, List.filterMap_cons, List.filterMap_cons, ih]
      rfl
    | text content =>
      rw [uncommentAll, elements_consText, ih]
      rfl
    | comment | instruction => exact ih

theorem child?_uncommented (name : String) :
    e.uncommented.child? name = (e.child? name).map uncommented :=
  child?_of_map name_uncommented e.elements_uncommented name

theorem childrenNamed_uncommented (name : String) :
    e.uncommented.childrenNamed name = (e.childrenNamed name).map uncommented :=
  childrenNamed_of_map name_uncommented e.elements_uncommented name

theorem leadText_consText (name : String) (input rest content : List Char) (nodes : List Node) :
    (mk name input rest (consText content nodes)).leadText =
      content ++ (mk name input rest nodes).leadText := by
  match nodes with
  | [] | .element _ :: _ | .comment :: _ | .instruction :: _ => exact (List.append_nil content).symm
  | .text _ :: _ => rfl

theorem leadText_uncommented : e.uncommented.leadText = wholeText e.children := by
  obtain ⟨name, input, rest, nodes⟩ := e
  rw [uncommented, children]
  induction nodes with
  | nil => rfl
  | cons node nodes ih =>
    cases node with
    | text content => rw [uncommentAll, leadText_consText, ih, wholeText]
    | comment => exact ih
    | element | instruction => rfl

theorem wholeText_eq : wholeText e.children = e.leadText ++ hiddenText e.children := by
  rw [leadText, text?]
  cases e.children with
  | nil => rfl
  | cons node nodes => cases node <;> rfl

theorem trimList_uncommented_iff :
    Text.trimList e.uncommented.leadText = Text.trimList e.leadText ↔ e.HidesNothing := by
  rw [leadText_uncommented, wholeText_eq, Text.trimList_append_eq_iff, HidesNothing]

end Element

end Reactor.Xml

namespace Reactor.Descriptor

open Xml (Element Node)

def ReadsThrough {α : Type} (read : Element → α) (values : Element → List Element) : Prop :=
  ∀ e : Element, read e.uncommented = read e ↔ ∀ v ∈ values e, v.HidesNothing

def within (name : String) (values : Element → List Element) (e : Element) : List Element :=
  (e.child? name).toList.flatMap values

def withinAll (name : String) (values : Element → List Element) (e : Element) : List Element :=
  (e.childrenNamed name).flatMap values

def firstNamed (names : List String) (e : Element) : List Element := names.filterMap e.child?

def lastNamed? (name : String) (e : Element) : Option Element :=
  e.elements.reverse.find? (·.name == name)

def coordinateParts : List String := ["groupId", "artifactId", "version"]

def parentValues : Element → List Element :=
  within "parent" (firstNamed (coordinateParts ++ ["relativePath"]))

def moduleValues : Element → List Element := within "modules" (·.childrenNamed "module")

def dependencyValues : Element → List Element :=
  within "dependencies" (withinAll "dependency" (firstNamed (coordinateParts ++ ["scope", "type"])))

def managedValues : Element → List Element := within "dependencyManagement" dependencyValues

def pluginValues : Element → List Element :=
  within "build" (within "plugins" (withinAll "plugin" (firstNamed coordinateParts)))

def propertyValues : Element → List Element := within "properties" Element.elements

def values (project : Element) : List Element :=
  firstNamed (coordinateParts ++ ["packaging"]) project ++ parentValues project ++
    moduleValues project ++ dependencyValues project ++ managedValues project ++
    pluginValues project ++ propertyValues project

/-- Of what is read of a project without comments, how much is read with them: a field is the same
just if none of its values hides text. Group and version may come from the parent instead. -/
structure Survives (project : Element) (d d' : Descriptor) : Prop where
  artifact : d'.coordinate.artifact = d.coordinate.artifact ↔
    ∀ v ∈ firstNamed ["artifactId"] project, v.HidesNothing
  coordinate : project.child? "parent" = none → (d'.coordinate = d.coordinate ↔
    ∀ v ∈ firstNamed coordinateParts project, v.HidesNothing)
  parent : d'.parent = d.parent ↔ ∀ v ∈ parentValues project, v.HidesNothing
  packaging : d'.packaging = d.packaging ↔ ∀ v ∈ firstNamed ["packaging"] project, v.HidesNothing
  modules : d'.modules = d.modules ↔ ∀ v ∈ moduleValues project, v.HidesNothing
  dependencies : d'.dependencies = d.dependencies ↔
    ∀ v ∈ dependencyValues project, v.HidesNothing
  managed : d'.managed = d.managed ↔ ∀ v ∈ managedValues project, v.HidesNothing
  plugins : d'.plugins = d.plugins ↔ ∀ v ∈ pluginValues project, v.HidesNothing
  properties : ∀ name, d'.properties[name]? = d.properties[name]? ↔
    ∀ v ∈ (project.child? "properties").bind (lastNamed? name), v.HidesNothing

section Texts

variable {e e' : Element} {name : String}

theorem textOf_eq_textOf_iff :
    textOf e = textOf e' ↔ Text.trimList e.leadText = Text.trimList e'.leadText := by
  rw [textOf_eq, textOf_eq]
  refine ⟨fun h ↦ ?_, fun h ↦ by rw [h]⟩
  split at h <;> split at h <;> simp_all [String.ofList_inj]

theorem textOf_eq_none_iff : textOf e = none ↔ ∀ c ∈ e.leadText, Text.isBlank c := by
  rw [textOf_eq, ← Text.trimList_eq_nil_iff]
  simp

theorem textOf_ne_empty : textOf e ≠ some "" := by
  rw [textOf_eq]
  split
  · simp
  · next hne => simpa [← String.toList_inj] using hne

theorem textOf_eq_none_of_uncommented (h : textOf e.uncommented = none) : textOf e = none := by
  rw [textOf_eq_none_iff, Element.leadText_uncommented, Element.wholeText_eq] at h
  exact textOf_eq_none_iff.mpr fun c hc ↦ h c (List.mem_append_left _ hc)

theorem textOf_uncommented_iff : textOf e.uncommented = textOf e ↔ e.HidesNothing := by
  rw [textOf_eq_textOf_iff, Element.trimList_uncommented_iff]

theorem childText_uncommented_iff :
    childText e.uncommented name = childText e name ↔ ∀ v ∈ e.child? name, v.HidesNothing := by
  rw [childText, childText, Element.child?_uncommented]
  cases e.child? name <;> simp [textOf_uncommented_iff]

theorem childText_ne_empty : childText e name ≠ some "" := by
  rw [childText]
  cases e.child? name with
  | none => simp
  | some v => exact textOf_ne_empty

theorem getD_eq_getD_iff {α : Type} {a : α} {o o' : Option α} (h : o ≠ some a) (h' : o' ≠ some a) :
    o.getD a = o'.getD a ↔ o = o' := by
  cases o <;> cases o' <;> simp_all [eq_comm]

theorem getD_childText_uncommented_iff :
    (childText e.uncommented name).getD "" = (childText e name).getD "" ↔
      ∀ v ∈ e.child? name, v.HidesNothing := by
  rw [getD_eq_getD_iff childText_ne_empty childText_ne_empty, childText_uncommented_iff]

end Texts

namespace ReadsThrough

variable {α : Type} {name : String} {read : Element → α} {values : Element → List Element}

theorem child (h : ReadsThrough read values) :
    ReadsThrough (fun e ↦ (e.child? name).map read) (within name values) := by
  intro e
  dsimp only
  rw [Element.child?_uncommented, within]
  cases e.child? name with
  | none => simp
  | some c => simpa using h c

theorem bindGetD {read : Element → Option α} {otherwise : α}
    (h : ReadsThrough (fun e ↦ (read e).getD otherwise) values) :
    ReadsThrough (fun e ↦ ((e.child? name).bind read).getD otherwise) (within name values) := by
  intro e
  dsimp only
  rw [Element.child?_uncommented, within]
  cases e.child? name with
  | none => simp
  | some c => simpa using h c

theorem childGetD {otherwise : α} (h : ReadsThrough read values) :
    ReadsThrough (fun e ↦ ((e.child? name).map read).getD otherwise) (within name values) := by
  have hsome : ReadsThrough (fun e ↦ ((some ∘ read) e).getD otherwise) values := h
  simpa only [Option.map_eq_bind] using hsome.bindGetD

theorem children (h : ReadsThrough read values) :
    ReadsThrough (fun e ↦ (e.childrenNamed name).map read) (withinAll name values) := by
  intro e
  dsimp only
  rw [Element.childrenNamed_uncommented, withinAll, List.map_map, List.map_inj_left]
  simp only [Function.comp_apply, h _, List.mem_flatMap, forall_exists_index, and_imp]
  exact ⟨fun hall v c hc hv ↦ hall c hc v hv, fun hall c hc v hv ↦ hall v c hc hv⟩

end ReadsThrough

section Readers

theorem forall_mem_firstNamed_iff {names : List String} {e : Element} {P : Element → Prop} :
    (∀ v ∈ firstNamed names e, P v) ↔ ∀ name ∈ names, ∀ v ∈ e.child? name, P v := by
  simp only [firstNamed, List.mem_filterMap, forall_exists_index, and_imp, Option.mem_def]
  exact ⟨fun h name hname v hv ↦ h v name hname hv, fun h v name hname hv ↦ h name hname v hv⟩

theorem readsThrough_readCoordinate :
    ReadsThrough readCoordinate (firstNamed coordinateParts) := by
  intro e
  rw [readCoordinate, readCoordinate, Coordinate.mk.injEq, getD_childText_uncommented_iff,
    getD_childText_uncommented_iff, childText_uncommented_iff]
  simp [forall_mem_firstNamed_iff, coordinateParts]

theorem readsThrough_readParent :
    ReadsThrough readParent (firstNamed (coordinateParts ++ ["relativePath"])) := by
  intro e
  rw [readParent, readParent, ParentRef.mk.injEq, readsThrough_readCoordinate,
    childText_uncommented_iff]
  simp [forall_mem_firstNamed_iff, or_imp, forall_and]

theorem readsThrough_readDependencies :
    ReadsThrough readDependencies
      (withinAll "dependency" (firstNamed (coordinateParts ++ ["scope", "type"]))) := by
  refine ReadsThrough.children fun e ↦ ?_
  rw [Dependency.mk.injEq, readsThrough_readCoordinate, childText_uncommented_iff,
    childText_uncommented_iff]
  simp [forall_mem_firstNamed_iff, or_imp, forall_and]

theorem filterMap_eq_filterMap_iff {α β : Type} {f g : α → Option β}
    (h : ∀ a, g a = none → f a = none) {l : List α} :
    l.filterMap g = l.filterMap f ↔ ∀ a ∈ l, g a = f a := by
  induction l with
  | nil => simp
  | cons a l ih =>
    rw [List.forall_mem_cons, ← ih, List.filterMap_cons, List.filterMap_cons]
    cases hg : g a with
    | none => simp [h a hg]
    | some y =>
      cases hf : f a with
      | some x => simp
      | none =>
        -- What is found in `l` is too short with one more in front.
        have hlength : (l.filterMap f).length ≤ (l.filterMap g).length := by
          rw [List.length_filterMap_eq_countP, List.length_filterMap_eq_countP]
          refine List.countP_mono_left fun a _ hfound ↦ ?_
          rw [← Option.not_isNone, Bool.not_eq_true'] at hfound ⊢
          cases hg : g a <;> simp_all
        have hne : y :: l.filterMap g ≠ l.filterMap f := by
          intro heq
          rw [← heq, List.length_cons] at hlength
          omega
        simp [hne]

theorem readsThrough_moduleTexts :
    ReadsThrough (fun e ↦ (e.childrenNamed "module").filterMap textOf)
      (·.childrenNamed "module") := by
  intro e
  dsimp only
  have hmore (c : Element) (hc : (textOf ∘ Element.uncommented) c = none) : textOf c = none :=
    textOf_eq_none_of_uncommented hc
  rw [Element.childrenNamed_uncommented, List.filterMap_map, filterMap_eq_filterMap_iff hmore]
  simp only [Function.comp_apply, textOf_uncommented_iff]

theorem lookup_map_name (value : Element → String) (es : List Element) (name : String) :
    (es.map fun v ↦ (v.name, value v)).lookup name =
      (es.find? (·.name == name)).map value := by
  induction es with
  | nil => rfl
  | cons v es ih =>
    rw [List.map_cons, List.lookup_cons, List.find?_cons, ih, Bool.beq_comm]
    cases v.name == name <;> rfl

theorem getElem?_readProperties (e : Element) (name : String) :
    (readProperties e)[name]? =
      (lastNamed? name e).map fun v ↦ String.ofList (Text.trimList v.leadText) := by
  have hfold : readProperties e =
      (e.elements.map fun v ↦ (v.name, String.ofList (Text.trimList v.leadText))).foldl
        (fun m p ↦ m.insert p.1 p.2) ∅ := by
    rw [readProperties_eq, List.foldl_map]
  rw [hfold, Properties.getElem?_foldl_insert, Std.TreeMap.getElem?_emptyc, Option.or_none,
    ← List.map_reverse, lookup_map_name, lastNamed?]

theorem getElem?_readProperties_uncommented_iff {e : Element} {name : String} :
    (readProperties e.uncommented)[name]? = (readProperties e)[name]? ↔
      ∀ v ∈ lastNamed? name e, v.HidesNothing := by
  rw [getElem?_readProperties, getElem?_readProperties, lastNamed?, Element.elements_uncommented,
    ← List.map_reverse, List.find?_map]
  simp only [Function.comp_def, Element.name_uncommented]
  rw [← lastNamed?]
  cases lastNamed? name e with
  | none => simp
  | some v => simp [String.ofList_inj, Element.trimList_uncommented_iff]

theorem readProperties_uncommented {e : Element} (h : ∀ v ∈ e.elements, v.HidesNothing) :
    readProperties e.uncommented = readProperties e := by
  rw [readProperties_eq, readProperties_eq, Element.elements_uncommented, List.foldl_map]
  refine List.foldl_ext _ _ _ fun m v hv ↦ ?_
  rw [Element.name_uncommented, v.trimList_uncommented_iff.mpr (h v hv)]

end Readers

section Fields

variable (path : Path) (project : Element)

theorem readsThrough_parent : ReadsThrough (fun e ↦ (ofProject path e).parent) parentValues :=
  readsThrough_readParent.child

theorem readsThrough_packaging :
    ReadsThrough (fun e ↦ (ofProject path e).packaging) (firstNamed ["packaging"]) := by
  intro e
  rw [forall_mem_firstNamed_iff, List.forall_mem_singleton]
  exact childText_uncommented_iff

theorem readsThrough_modules : ReadsThrough (fun e ↦ (ofProject path e).modules) moduleValues :=
  readsThrough_moduleTexts.childGetD

theorem readsThrough_dependencies :
    ReadsThrough (fun e ↦ (ofProject path e).dependencies) dependencyValues :=
  readsThrough_readDependencies.childGetD

theorem readsThrough_managed : ReadsThrough (fun e ↦ (ofProject path e).managed) managedValues :=
  (readsThrough_dependencies path).bindGetD

theorem readsThrough_plugins : ReadsThrough (fun e ↦ (ofProject path e).plugins) pluginValues :=
  readsThrough_readCoordinate.children.childGetD.bindGetD

theorem properties_uncommented :
    (ofProject path project.uncommented).properties =
      ((project.child? "properties").map (readProperties ·.uncommented)).getD ∅ := by
  have hchild : (ofProject path project.uncommented).properties =
      ((project.uncommented.child? "properties").map readProperties).getD ∅ := rfl
  rw [hchild, Element.child?_uncommented, Option.map_map]
  rfl

theorem artifact_inheritCoordinate (own : Coordinate) (parent : Option ParentRef) :
    (inheritCoordinate own parent).artifact = own.artifact := by
  cases parent <;> rfl

theorem ofProject_survives :
    Survives project (ofProject path project) (ofProject path project.uncommented) where
  artifact := by
    rw [ofProject, ofProject, artifact_inheritCoordinate, artifact_inheritCoordinate,
      forall_mem_firstNamed_iff, List.forall_mem_singleton]
    exact getD_childText_uncommented_iff
  coordinate hparent := by
    have hparent' : project.uncommented.child? "parent" = none := by
      rw [Element.child?_uncommented, hparent, Option.map_none]
    rw [ofProject, ofProject, hparent, hparent']
    exact readsThrough_readCoordinate project
  parent := readsThrough_parent path project
  packaging := readsThrough_packaging path project
  modules := readsThrough_modules path project
  dependencies := readsThrough_dependencies path project
  managed := readsThrough_managed path project
  plugins := readsThrough_plugins path project
  properties name := by
    rw [properties_uncommented, ofProject]
    cases project.child? "properties" with
    | none => simp
    | some e => exact getElem?_readProperties_uncommented_iff

theorem ofProject_uncommented (h : ∀ v ∈ values project, v.HidesNothing) :
    ofProject path project.uncommented = ofProject path project := by
  simp only [values, List.mem_append, or_imp, forall_and] at h
  obtain ⟨⟨⟨⟨⟨⟨hown, hparent⟩, hmodules⟩, hdependencies⟩, hmanaged⟩, hplugins⟩, hproperties⟩ := h
  have hparent : (ofProject path project.uncommented).parent = (ofProject path project).parent :=
    (readsThrough_parent path project).mpr hparent
  rw [forall_mem_firstNamed_iff, List.forall_mem_append] at hown
  have hread : readCoordinate project.uncommented = readCoordinate project :=
    (readsThrough_readCoordinate project).mpr (forall_mem_firstNamed_iff.mpr hown.1)
  have hcoordinate : (ofProject path project.uncommented).coordinate =
      (ofProject path project).coordinate := by
    have hinherit (e : Element) : (ofProject path e).coordinate =
        inheritCoordinate (readCoordinate e) (ofProject path e).parent := rfl
    rw [hinherit, hinherit, hread, hparent]
  have hproperties : (ofProject path project.uncommented).properties =
      (ofProject path project).properties := by
    rw [properties_uncommented, ofProject]
    rw [propertyValues, within] at hproperties
    cases hchild : project.child? "properties" with
    | none => rfl
    | some e =>
      rw [hchild, Option.toList_some, List.flatMap_singleton] at hproperties
      exact readProperties_uncommented hproperties
  have hpackaging :=
    (readsThrough_packaging path project).mpr (forall_mem_firstNamed_iff.mpr hown.2)
  have hmodules := (readsThrough_modules path project).mpr hmodules
  have hdependencies := (readsThrough_dependencies path project).mpr hdependencies
  have hmanaged := (readsThrough_managed path project).mpr hmanaged
  have hplugins := (readsThrough_plugins path project).mpr hplugins
  rw [ofProject, ofProject, Descriptor.mk.injEq]
  exact ⟨rfl, hcoordinate, hparent, hpackaging, hmodules, hdependencies, hmanaged, hplugins,
    hproperties⟩

/-- Comments change what is read of a project just where they hide text of its values, and nothing
else about them counts. -/
theorem ofText_comments_exact {text plain : String} {project : Element} {d : Descriptor}
    (htree : Element.treeOf text.toList = .ok project)
    (hplain : Element.treeOf plain.toList = .ok project.uncommented)
    (hd : ofText path text = .ok d) :
    ∃ d', ofText path plain = .ok d' ∧ Survives project d d' ∧
      ((∀ v ∈ values project, v.HidesNothing) → d' = d) := by
  rw [ofText_of_treeOf path htree, ofRoot] at hd
  rw [ofText_of_treeOf path hplain, ofRoot, Element.name_uncommented]
  split at hd
  · next hname =>
    obtain rfl := Except.ok.inj hd
    rw [if_pos hname]
    exact ⟨_, rfl, ofProject_survives path project, ofProject_uncommented path project⟩
  · cases hd

section Pinned

def remarkedText : String := "<project><version>1<!-- pinned --></version></project>"

def pinnedText : String := "<project><version><!-- pinned -->1</version></project>"

def versionText : String := "<project><version>1</version></project>"

def versionProject (contents : List Node) : Element :=
  .mk "project" [] [] [.element (.mk "version" [] [] contents)]

theorem treeOf_versionText :
    Element.treeOf versionText.toList = .ok (versionProject [.text ['1']]) := by
  rw [versionText, String.toList_ofList]
  decide +kernel

theorem remarked_alike :
    ∃ project d d', Element.treeOf remarkedText.toList = .ok project ∧
      Element.treeOf versionText.toList = .ok project.uncommented ∧
      ofText ⟨"/pom.xml"⟩ remarkedText = .ok d ∧ (∀ v ∈ values project, v.HidesNothing) ∧
      ofText ⟨"/pom.xml"⟩ versionText = .ok d' ∧ d' = d := by
  have htree : Element.treeOf remarkedText.toList =
      .ok (versionProject [.text ['1'], .comment]) := by
    rw [remarkedText, String.toList_ofList]
    decide +kernel
  have hd : ofText ⟨"/pom.xml"⟩ remarkedText =
      .ok (ofProject ⟨"/pom.xml"⟩ (versionProject [.text ['1'], .comment])) :=
    ofText_of_treeOf _ htree
  have hshown : ∀ v ∈ values (versionProject [.text ['1'], .comment]), v.HidesNothing := by decide
  obtain ⟨d', hd', -, hsame⟩ := ofText_comments_exact _ htree treeOf_versionText hd
  exact ⟨_, _, d', htree, treeOf_versionText, hd, hshown, hd', hsame hshown⟩

/-- A comment in front of a version leaves the project without one. -/
theorem pinned_lost :
    ∃ project d d', Element.treeOf pinnedText.toList = .ok project ∧
      Element.treeOf versionText.toList = .ok project.uncommented ∧
      ofText ⟨"/pom.xml"⟩ pinnedText = .ok d ∧ ofText ⟨"/pom.xml"⟩ versionText = .ok d' ∧
      d.coordinate.version = none ∧ d'.coordinate.version = some "1" := by
  have htree : Element.treeOf pinnedText.toList = .ok (versionProject [.comment, .text ['1']]) := by
    rw [pinnedText, String.toList_ofList]
    decide +kernel
  exact ⟨_, _, _, htree, treeOf_versionText, ofText_of_treeOf _ htree,
    ofText_of_treeOf _ treeOf_versionText, by decide, by decide⟩

end Pinned

end Fields

end Reactor.Descriptor
