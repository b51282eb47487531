import Reactor.Proofs.LocalNames
import Reactor.Proofs.Outline

namespace Reactor.Descriptor

open Xml (Element Node localTokens)

/-- Child elements at a place that differ in foreign elements alone, there or further inside. Any
child of the properties is read, so none is foreign among them. -/
inductive Alike : Place → List Element → List Element → Prop
  | nil (place : Place) : Alike place [] []
  | inserted {place : Place} {es es' : List Element} {foreign : Element} :
      place.child? foreign.name = none → Alike place es es' → Alike place es (foreign :: es')
  | removed {place : Place} {es es' : List Element} {foreign : Element} :
      place.child? foreign.name = none → Alike place es es' → Alike place (foreign :: es) es'
  | same {place : Place} {es es' : List Element} {e : Element} :
      Alike place es es' → Alike place (e :: es) (e :: es')
  | inside {place inner : Place} {es es' : List Element} {e e' : Element} :
      place.child? e.name = some inner → inner ≠ .value → e'.name = e.name →
      Alike inner e.elements e'.elements → Alike place es es' → Alike place (e :: es) (e' :: es')

section Outlines

variable {place : Place} {e e' : Element} {es es' : List Element}

theorem outline_eq_of_members (hplace : place ≠ .value) (hname : e'.name = e.name)
    (h : e'.elements.filterMap (member? place) = e.elements.filterMap (member? place)) :
    outline place e' = outline place e := by
  rw [outline_group _ hplace, outline_group _ hplace, hname, h]

theorem Alike.members_eq (h : Alike place es es') :
    es'.filterMap (member? place) = es.filterMap (member? place) := by
  induction h with
  | nil place => rfl
  | inserted hforeign _ ih =>
    rw [List.filterMap_cons_none, ih]
    rw [member?, hforeign, Option.map_none]
  | removed hforeign _ ih =>
    rw [ih, List.filterMap_cons_none]
    rw [member?, hforeign, Option.map_none]
  | same _ ih => rw [List.filterMap_cons, List.filterMap_cons, ih]
  | inside hchild hinner hname _ _ ihinside ih =>
    rw [List.filterMap_cons, List.filterMap_cons, member?_eq hchild rfl, member?_eq hchild hname,
      outline_eq_of_members hinner hname ihinside, ih]

end Outlines

/-- A descriptor does not change with foreign elements, whatever they hold, nor with the namespaces
of a document. -/
theorem ofText_of_alike (path : Path) {text text' : String} {tree tree' : Element}
    (h : Element.treeOf text.toList = .ok tree) (h' : Element.treeOf text'.toList = .ok tree') :
    (tree'.name = tree.name → Alike .project tree.elements tree'.elements →
      ofText path text' = ofText path text) ∧
    (localTokens text'.toList = localTokens text.toList →
      ofText path text' = ofText path text) := by
  rw [ofText_of_treeOf path h, ofText_of_treeOf path h']
  constructor
  · intro hname halike
    exact ofRoot_eq_of_outline path (outline_eq_of_members (by decide) hname halike.members_eq)
  · intro htokens
    rw [Element.treeOf_eq_of_localTokens h h' htokens]

section Versions

def plainText : String := "<project><parent><version>1</version></parent></project>"

def annotatedText : String :=
  "<project><parent><note><version>2</version></note><version>1</version></parent></project>"

def prefixedText : String :=
  "<m:project xmlns:m=\"urn:m\"><m:parent><m:version>1</m:version></m:parent></m:project>"

def element (name : String) (children : List Node) : Element := .mk name [] [] children

def versionTree (version : List Char) : Element := element "version" [.text version]

def noteTree : Element := element "note" [.element (versionTree ['2'])]

def parentTree (parts : List Element) : Element :=
  element "project" [.element (element "parent" (parts.map .element))]

theorem annotated_alike :
    ∃ tree tree', Element.treeOf plainText.toList = .ok tree ∧
      Element.treeOf annotatedText.toList = .ok tree' ∧ tree'.name = tree.name ∧
      Alike .project tree.elements tree'.elements ∧
      ofText ⟨"/pom.xml"⟩ annotatedText = ofText ⟨"/pom.xml"⟩ plainText ∧
      localTokens prefixedText.toList = localTokens plainText.toList ∧
      ofText ⟨"/pom.xml"⟩ prefixedText = ofText ⟨"/pom.xml"⟩ plainText := by
  have h : Element.treeOf plainText.toList = .ok (parentTree [versionTree ['1']]) := by
    rw [plainText, String.toList_ofList]
    decide +kernel
  have h' : Element.treeOf annotatedText.toList =
      .ok (parentTree [noteTree, versionTree ['1']]) := by
    rw [annotatedText, String.toList_ofList]
    decide +kernel
  have hprefixed : Element.treeOf prefixedText.toList = .ok (parentTree [versionTree ['1']]) := by
    rw [prefixedText, String.toList_ofList]
    decide +kernel
  have htokens : localTokens prefixedText.toList = localTokens plainText.toList := by
    rw [plainText, prefixedText, String.toList_ofList, String.toList_ofList]
    decide +kernel
  have hparts : Alike .parent [versionTree ['1']] [noteTree, versionTree ['1']] :=
    .inserted (by decide) (.same (.nil _))
  have halike : Alike .project (parentTree [versionTree ['1']]).elements
      (parentTree [noteTree, versionTree ['1']]).elements :=
    .inside rfl (by decide) rfl hparts (.nil _)
  exact ⟨_, _, h, h', rfl, halike, (ofText_of_alike _ h h').1 rfl halike, htokens,
    (ofText_of_alike _ h hprefixed).2 htokens⟩

end Versions

end Reactor.Descriptor
