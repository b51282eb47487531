import Reactor.Proofs.Isolation

namespace Reactor

namespace Rendered

open Xml (Element)

def artifactOf? (p : Element) : Option String :=
  ((p.child? "artifactId").bind Element.text?).map fun cs ↦ String.ofList (Text.trimList cs)

/-- Texts from which nothing can be taken for a coordinate. -/
inductive Unusable (path : Path) (c : Coordinate) (text : String) : Prop
  | notXml {e : Xml.Malformed} : Element.ofText text.toList = .error e → Unusable path c text
  | otherRoot {root : Element} : Element.ofText text.toList = .ok root →
      root.name ≠ "project" → root.name ≠ "projects" → Unusable path c text
  | noProject {root : Element} : Element.ofText text.toList = .ok root → root.name = "projects" →
      (∀ p ∈ root.childrenNamed "project", artifactOf? p ≠ some c.artifact) → Unusable path c text
  /-- The project of a wrapper may lean on what stands around it. -/
  | notOnItsOwn {root p : Element} {fault : DescriptorFault} :
      Element.ofText text.toList = .ok root → root.name = "projects" →
      projectOf? root c.artifact = some p →
      Descriptor.ofText path (String.ofList p.source) = .error fault → Unusable path c text

variable {path : Path} {c : Coordinate} {text : String}

theorem projectOf?_eq_none_iff {root : Element} {artifact : String} :
    projectOf? root artifact = none ↔
      ∀ p ∈ root.childrenNamed "project", artifactOf? p ≠ some artifact := by
  simp only [projectOf?, artifactOf?, List.find?_eq_none, beq_iff_eq, ne_eq]

theorem ofText_eq_error_iff :
    (∃ e, ofText path text c = .error e) ↔ Unusable path c text := by
  constructor
  · rintro ⟨e, h⟩
    rw [ofText, projectText] at h
    cases hxml : Element.ofText text.toList with
    | error fault => exact .notXml hxml
    | ok root =>
      simp only [hxml] at h
      by_cases hwrapper : root.name = "projects"
      · simp only [hwrapper, if_true] at h
        cases hp : projectOf? root c.artifact with
        | none => exact .noProject hxml hwrapper (projectOf?_eq_none_iff.mp hp)
        | some p =>
          simp only [hp] at h
          cases hd : Descriptor.ofText path (String.ofList p.source) with
          | error fault => exact .notOnItsOwn hxml hwrapper hp hd
          | ok d =>
            rw [hd] at h
            cases h
      · simp only [hwrapper, if_false, Descriptor.ofText, hxml, Descriptor.ofRoot] at h
        by_cases hproject : root.name = "project"
        · rw [if_pos hproject] at h
          cases h
        · exact .otherRoot hxml hproject hwrapper
  · rintro (hxml | ⟨hxml, hproject, hwrapper⟩ | ⟨hxml, hwrapper, hnone⟩ |
      ⟨hxml, hwrapper, hp, hd⟩)
    · simp [ofText, projectText, hxml]
    · simp [ofText, projectText, hxml, hwrapper, Descriptor.ofText, Descriptor.ofRoot, hproject]
    · simp [ofText, projectText, hxml, hwrapper, projectOf?_eq_none_iff.mpr hnone]
    · simp [ofText, projectText, hxml, hwrapper, hp, hd]

end Rendered

theorem Descriptor.read_ne_unavailable {files : FileView} {path p : Path} {fault : RenderFault} :
    Descriptor.read files path ≠ .error (.unavailable p fault) := by
  intro h
  rw [read] at h
  cases htext : files.read path with
  | error refusal =>
    rw [htext] at h
    cases refusal <;> cases h
  | ok text =>
    simp only [htext, parse] at h
    cases hof : ofText path text <;> rw [hof] at h <;> cases h

namespace Detector

variable {d : Detector} {f : Forest} {directory : Path} {entries : List DirEntry}

/-- The renderer fails for a descriptor, or gives a text of no use for it. -/
def RenderingFails (d : Detector) (renderer : Renderer) (path : Path) (leaf : Descriptor) : Prop :=
  (∃ e, d.effectiveText renderer path = .error e) ∨
    ∃ text, d.effectiveText renderer path = .ok text ∧
      Rendered.Unusable path leaf.coordinate text

def withoutRenderer (d : Detector) : Detector := { d with renderer := none }

def outcome (found : Except Failure Detection) : Except Failure (Forest × Option Project) :=
  found.map fun found ↦ (found.forest, found.project)

theorem RenderingFails.bind_render {renderer : Renderer} {path : Path} {leaf : Descriptor}
    (hd : d.renderer = some renderer) (h : d.RenderingFails renderer path leaf) :
    (d.render path leaf).bind Except.toOption = none := by
  rw [render, hd, Option.map_some, Option.bind_some]
  rcases h with ⟨e, he⟩ | ⟨text, htext, hunusable⟩
  · rw [he]
    rfl
  · obtain ⟨e, he⟩ := Rendered.ofText_eq_error_iff.mpr hunusable
    simp only [htext, he]
    rfl

theorem read_of_preload_error {path : Path} {e : Failure} (h : d.preload f path = .error e) :
    Descriptor.read d.files path = .error e := by
  rw [preload] at h
  cases hid : f.idOf? path with
  | some id =>
    rw [hid] at h
    cases h
  | none =>
    rw [hid] at h
    exact eq_error_of_map h

theorem examine_withoutRenderer (f : Forest) (directory : Path) {path : Path} {leaf : Descriptor}
    (h : (d.render path leaf).bind Except.toOption = none) :
    (d.examine f directory path leaf).1 = (d.withoutRenderer.examine f directory path leaf).1 := by
  have hanalyse : (d.analyse f directory path leaf).1 =
      (d.withoutRenderer.analyse f directory path leaf).1 := by
    simp only [analyse, h]
    rfl
  rw [examine, examine]
  split
  · rfl
  · exact congrArg some hanalyse

theorem detect_withoutRenderer
    (h : ∀ path g id leaf, (Call.detect directory entries).path? = some path →
      d.preload f path = .ok (g, id) → g.nodes[id]? = some leaf →
      (d.render path leaf).bind Except.toOption = none) :
    outcome (d.detect f directory entries) =
      outcome (d.withoutRenderer.detect f directory entries) := by
  rw [detect_eq_map, detect_eq_map]
  cases hpath : (Call.detect directory entries).path? with
  | none => dsimp only
  | some path =>
    have hpreload : d.withoutRenderer.preload f path = d.preload f path := rfl
    dsimp only
    rw [hpreload]
    cases hloaded : d.preload f path with
    | error e => simp only [Except.map]
    | ok loaded =>
      obtain ⟨g, id⟩ := loaded
      dsimp only [outcome, Except.map, examineNode]
      cases hnode : g.nodes[id]? with
      | none => dsimp only [Option.map_none, Option.getD_none]
      | some leaf =>
        have hexamine := examine_withoutRenderer g directory (h path g id leaf hpath hloaded hnode)
        dsimp only [Option.map_some, Option.getD_some]
        rw [hexamine]

theorem read_of_detect_error {e : Failure} (h : d.detect f directory entries = .error e) :
    ∃ path, (Call.detect directory entries).path? = some path ∧
      Descriptor.read d.files path = .error e := by
  rw [detect_eq_map] at h
  cases hpath : (Call.detect directory entries).path? with
  | none =>
    rw [hpath] at h
    cases h
  | some path =>
    rw [hpath] at h
    exact ⟨path, rfl, read_of_preload_error (eq_error_of_map h)⟩

/-- A rendering that fails has the outcome of no rendering, and detection never fails because an
effective form is unavailable. -/
theorem detect_of_failed_rendering (d : Detector) (f : Forest) (directory : Path)
    (entries : List DirEntry) :
    (∀ renderer, d.renderer = some renderer →
      (∀ path g id leaf, (Call.detect directory entries).path? = some path →
        d.preload f path = .ok (g, id) → g.nodes[id]? = some leaf →
        d.RenderingFails renderer path leaf) →
      outcome (d.detect f directory entries) =
        outcome (d.withoutRenderer.detect f directory entries)) ∧
    ∀ path fault, d.detect f directory entries ≠ .error (.unavailable path fault) := by
  constructor
  · intro renderer hd hfails
    apply detect_withoutRenderer
    intro path g id leaf hpath hpreload hnode
    exact (hfails path g id leaf hpath hpreload hnode).bind_render hd
  · intro path fault h
    obtain ⟨p, -, hread⟩ := read_of_detect_error h
    exact Descriptor.read_ne_unavailable hread

section Misplaced

def misplacedText : String :=
  "<projects><project><artifactId>root</artifactId></project></projects>"

def misplacedDetector : Detector :=
  { serviceDetector with renderer := some fun _ ↦ .ok misplacedText }

theorem misplaced_unusable :
    Rendered.Unusable servicePath serviceNode.coordinate misplacedText :=
  .noProject rfl rfl (by decide +kernel)

theorem misplaced_detected :
    misplacedDetector.renderer = some (fun _ ↦ .ok misplacedText) ∧
      (∀ path g id leaf, (Call.detect ⟨"/mock/service"⟩ serviceEntries).path? = some path →
        misplacedDetector.preload .empty path = .ok (g, id) → g.nodes[id]? = some leaf →
        misplacedDetector.RenderingFails (fun _ ↦ .ok misplacedText) path leaf) ∧
      outcome (misplacedDetector.detect .empty ⟨"/mock/service"⟩ serviceEntries) =
        outcome (misplacedDetector.withoutRenderer.detect .empty ⟨"/mock/service"⟩
          serviceEntries) := by
  have hpath : (Call.detect ⟨"/mock/service"⟩ serviceEntries).path? = some servicePath := by decide
  have hread : Descriptor.read misplacedDetector.files servicePath = .ok serviceNode := read_service
  have hfails : ∀ path g id leaf, (Call.detect ⟨"/mock/service"⟩ serviceEntries).path? = some path →
      misplacedDetector.preload .empty path = .ok (g, id) → g.nodes[id]? = some leaf →
      misplacedDetector.RenderingFails (fun _ ↦ .ok misplacedText) path leaf := by
    intro path g id leaf hpath' hpreload hnode
    obtain rfl : servicePath = path := Option.some.inj (hpath.symm.trans hpath')
    rw [preload_eq hread, Forest.register_of_new (Forest.empty_byKey _)] at hpreload
    obtain ⟨rfl, rfl⟩ := Prod.mk.inj (Except.ok.inj hpreload)
    obtain rfl : serviceNode = leaf := Option.some.inj (Forest.extend_node_size.symm.trans hnode)
    exact .inr ⟨misplacedText, rfl, misplaced_unusable⟩
  exact ⟨rfl, hfails, (detect_of_failed_rendering misplacedDetector _ _ _).1 _ rfl hfails⟩

end Misplaced

end Detector

end Reactor
