import Reactor.Proofs.FailedRendering
import Reactor.Proofs.XmlPrefixes

namespace Reactor.Rendered

open Xml (Element)

def ownText? (p : Element) (tag : String) : Option String :=
  ((p.child? tag).bind Element.text?).map fun cs ↦ String.ofList (Text.trimList cs)

def projectFor? (wrapper : Element) (c : Coordinate) : Option Element :=
  (wrapper.childrenNamed "project").find? fun p ↦
    ownText? p "groupId" == some c.group && ownText? p "artifactId" == some c.artifact

def concreteVersionOf? (key : ArtifactKey) (ds : List Dependency) : Option String :=
  ds.findSome? fun d ↦ if d.key = key then d.coordinate.version.filter (!hasPlaceholder ·) else none

variable {path : Path} {text : String} {c : Coordinate} {root p q : Element}

theorem version?_ofDescriptor (d : Descriptor) (key : ArtifactKey) :
    (ofDescriptor d).version? key = concreteVersionOf? key (d.managed ++ d.dependencies) := by
  rw [version?, ofDescriptor, concreteVersionOf?]
  dsimp only
  induction d.managed ++ d.dependencies with
  | nil => rfl
  | cons e es ih =>
    rw [List.filterMap_cons, List.findSome?_cons, concreteVersion?]
    cases hversion : e.coordinate.version.filter (!hasPlaceholder ·) with
    | none => simp [ih]
    | some v =>
      by_cases hkey : e.key = key
      · simp [hkey]
      · have hother : (key == e.key) = false := beq_false_of_ne (Ne.symm hkey)
        simp [hkey, List.lookup_cons, hother, ih]

theorem exists_projectOf? (h : projectFor? root c = some p) :
    ∃ q, projectOf? root c.artifact = some q ∧ (q = p ↔ ownText? q "groupId" = some c.group) := by
  have hp := List.find?_some h
  rw [Bool.and_eq_true, beq_iff_eq, beq_iff_eq] at hp
  obtain ⟨q, hq⟩ : ∃ q, projectOf? root c.artifact = some q := by
    rw [← Option.isSome_iff_exists]
    exact List.find?_isSome.mpr ⟨p, List.mem_of_find?_eq_some h, beq_iff_eq.mpr hp.2⟩
  refine ⟨q, hq, ?_, fun hgroup ↦ ?_⟩
  · rintro rfl
    exact hp.1
  -- No project before `q` has the artifact, so none has both names.
  · obtain ⟨hartifact, before, after, hlist, hbefore⟩ := List.find?_eq_some_iff_append.mp hq
    have hfor : projectFor? root c = some q := by
      refine List.find?_eq_some_iff_append.mpr ⟨?_, before, after, hlist, fun e he ↦ ?_⟩
      · rw [Bool.and_eq_true]
        exact ⟨beq_iff_eq.mpr hgroup, hartifact⟩
      · rw [Bool.not_eq_true', Bool.and_eq_false_iff]
        exact .inr (Bool.not_eq_true' .. ▸ hbefore e he)
    exact Option.some.inj (hfor.symm.trans h)

theorem ofText_of_projectOf? (hxml : Element.ofText text.toList = .ok root)
    (hwrapper : root.name = "projects") (hq : projectOf? root c.artifact = some q)
    (halone : q.StandsAlone) :
    ofText path text c = .ok (ofDescriptor (Descriptor.ofProject path q)) := by
  obtain ⟨body, ts, hscan, us, hpart, hspan⟩ := Element.span_of_ofText hxml
  have hmem := List.mem_of_find?_eq_some hq
  obtain ⟨hchild, hname⟩ := List.mem_filter.mp hmem
  obtain ⟨inside, hinside⟩ := hspan.child hchild
  obtain ⟨e, he, hbare⟩ := Element.exists_alone hscan (hinside.mono hpart) halone
  have hproject : e.name = "project" := by
    rw [← Element.name_bare, hbare, Element.name_bare]
    exact beq_iff_eq.mp hname
  have hdescriptor : Descriptor.ofText path (String.ofList q.source) =
      .ok (Descriptor.ofProject path q) := by
    rw [Descriptor.ofText, String.toList_ofList, he]
    dsimp only
    rw [Descriptor.ofRoot, if_pos hproject, ← Descriptor.ofProject_bare, hbare,
      Descriptor.ofProject_bare]
  simp [ofText, projectText, hxml, hwrapper, hq, hdescriptor]

/-- Of a wrapper with a project for both names of a coordinate, the first project of its artifact is
taken, which is that project just if it has the group too; of the project taken all is read as it
stands in the wrapper. -/
theorem ofText_wrapper_exact (path : Path) (hxml : Element.ofText text.toList = .ok root)
    (hwrapper : root.name = "projects") (hp : projectFor? root c = some p) :
    ∃ q, projectOf? root c.artifact = some q ∧ (q = p ↔ ownText? q "groupId" = some c.group) ∧
      (q.StandsAlone → ∃ r, ofText path text c = .ok r ∧
        r.properties = (Descriptor.ofProject path q).properties ∧
        ∀ key, r.version? key = concreteVersionOf? key
          ((Descriptor.ofProject path q).managed ++
            (Descriptor.ofProject path q).dependencies)) := by
  obtain ⟨q, hq, hsame⟩ := exists_projectOf? hp
  refine ⟨q, hq, hsame, fun halone ↦ ?_⟩
  exact ⟨_, ofText_of_projectOf? hxml hwrapper hq halone, rfl, version?_ofDescriptor _⟩

section Siblings

def appPath : Path := ⟨"/repo/pom.xml"⟩

def appCoordinate : Coordinate := ⟨"g", "app", none⟩

def wrapperText : String :=
  "<projects><project><groupId>g</groupId><artifactId>other</artifactId></project>" ++
  "<project><groupId>g</groupId><artifactId>app</artifactId><dependencies><dependency>" ++
  "<groupId>x</groupId><artifactId>z</artifactId><version>9.9</version>" ++
  "</dependency></dependencies></project></projects>"

def twinText : String :=
  "<projects><project><groupId>h</groupId><artifactId>app</artifactId>" ++
  "<properties><release>1</release></properties></project>" ++
  "<project><groupId>g</groupId><artifactId>app</artifactId>" ++
  "<properties><release>2</release></properties></project></projects>"

theorem toList_append_eq {s t : String} {cs ds : List Char} (hs : s.toList = cs)
    (ht : t.toList = ds) : (s ++ t).toList = cs ++ ds := by
  rw [String.toList_append, hs, ht]

theorem eq_ok_of_mem_toOption {ε α : Type} {x : Except ε α} {a : α} (h : a ∈ x.toOption) :
    x = .ok a := by
  cases x with
  | error e => cases h
  | ok b => exact congrArg _ (Option.some.inj h)

set_option maxRecDepth 10000 in
theorem wrapper_rendered :
    ∃ root p, Element.ofText wrapperText.toList = .ok root ∧ root.name = "projects" ∧
      projectFor? root appCoordinate = some p ∧ p.StandsAlone ∧
      ∃ r, ofText appPath wrapperText appCoordinate = .ok r ∧
        r.properties = (Descriptor.ofProject appPath p).properties ∧
        r.version? ⟨"x", "z"⟩ = some "9.9" := by
  obtain ⟨cs, hcs, root, hroot, hwrapper, p, hp, hgroup, halone, hversion⟩ :
      ∃ cs, wrapperText.toList = cs ∧ ∃ root ∈ (Element.ofText cs).toOption,
        root.name = "projects" ∧ ∃ p ∈ projectFor? root appCoordinate,
          (projectOf? root "app").bind (ownText? · "groupId") = some "g" ∧ p.StandsAlone ∧
          concreteVersionOf? ⟨"x", "z"⟩ ((Descriptor.ofProject appPath p).managed ++
            (Descriptor.ofProject appPath p).dependencies) = some "9.9" := by
    refine ⟨_, toList_append_eq (toList_append_eq (toList_append_eq String.toList_ofList
      String.toList_ofList) String.toList_ofList) String.toList_ofList, ?_⟩
    decide +kernel
  have hxml := eq_ok_of_mem_toOption hroot
  rw [← hcs] at hxml
  obtain ⟨q, hq, hsame, hread⟩ := ofText_wrapper_exact appPath hxml hwrapper hp
  rw [show projectOf? root "app" = some q from hq] at hgroup
  obtain rfl := hsame.mpr hgroup
  obtain ⟨r, hr, hproperties, hversions⟩ := hread halone
  exact ⟨root, q, hxml, hwrapper, hp, halone, r, hr, hproperties, (hversions _).trans hversion⟩

set_option maxRecDepth 10000 in
/-- The properties of the other group's project are taken for those of the project. -/
theorem twin_misread :
    ∃ root p r, Element.ofText twinText.toList = .ok root ∧ root.name = "projects" ∧
      projectFor? root appCoordinate = some p ∧ p.StandsAlone ∧
      ofText appPath twinText appCoordinate = .ok r ∧
      (Descriptor.ofProject appPath p).properties["release"]? = some "2" ∧
      r.properties["release"]? = some "1" := by
  obtain ⟨cs, hcs, root, hroot, hwrapper, p, hp, halone, hright, q, hq, hown, hwrong⟩ :
      ∃ cs, twinText.toList = cs ∧ ∃ root ∈ (Element.ofText cs).toOption,
        root.name = "projects" ∧ ∃ p ∈ projectFor? root appCoordinate, p.StandsAlone ∧
          (Descriptor.ofProject appPath p).properties["release"]? = some "2" ∧
          ∃ q ∈ projectOf? root "app", q.StandsAlone ∧
          (Descriptor.ofProject appPath q).properties["release"]? = some "1" := by
    refine ⟨_, toList_append_eq (toList_append_eq (toList_append_eq String.toList_ofList
      String.toList_ofList) String.toList_ofList) String.toList_ofList, ?_⟩
    decide +kernel
  have hxml := eq_ok_of_mem_toOption hroot
  rw [← hcs] at hxml
  have hread : ofText appPath twinText appCoordinate =
      .ok (ofDescriptor (Descriptor.ofProject appPath q)) :=
    ofText_of_projectOf? hxml hwrapper hq hown
  exact ⟨root, p, _, hxml, hwrapper, hp, halone, hread, hright, hwrong⟩

end Siblings

end Reactor.Rendered
