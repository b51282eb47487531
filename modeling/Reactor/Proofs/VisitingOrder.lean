import Mathlib.Data.Finset.Insert
import Reactor.Detector
import Reactor.Files.Memory
import Reactor.Proofs.Coordinate
import Reactor.Proofs.Renumbering

namespace Reactor

namespace Descriptor

variable {path : Path} {d : Descriptor}

theorem path_of_ofText {text : String} (h : ofText path text = .ok d) : d.path = path := by
  rw [ofText] at h
  cases hroot : Xml.Element.ofText text.toList with
  | error e =>
    rw [hroot] at h
    cases h
  | ok root =>
    rw [hroot] at h
    by_cases hname : root.name = "project"
    · obtain rfl : ofProject path root = d := by simpa [ofRoot, hname] using h
      rfl
    · simp [ofRoot, hname] at h

theorem path_of_read {files : FileView} (h : read files path = .ok d) : d.path = path := by
  rw [read] at h
  cases htext : files.read path with
  | error fault =>
    rw [htext] at h
    cases fault <;> cases h
  | ok text =>
    simp only [htext, parse] at h
    cases hof : ofText path text with
    | error fault =>
      rw [hof] at h
      cases h
    | ok e =>
      rw [hof] at h
      obtain rfl : e = d := Except.ok.inj h
      exact path_of_ofText hof

end Descriptor

inductive Call
  | preload (path : Path)
  | detect (directory : Path) (entries : List DirEntry)
  deriving DecidableEq, Repr

def Call.path? : Call → Option Path
  | preload path => some path
  | detect directory entries =>
    descriptorEntry? entries |>.map fun entry ↦ directory.join ⟨entry.name⟩

namespace Detector

def forestAfterCall (d : Detector) (f : Forest) : Call → Forest
  | .preload path =>
    match d.preload f path with
    | .ok (f, _) => f
    | .error _ => f
  | .detect directory entries =>
    match d.detect f directory entries with
    | .ok found => found.forest
    | .error _ => f

def forestAfter (d : Detector) (calls : List Call) : Forest :=
  calls.foldl d.forestAfterCall .empty

/-- Paths at which descriptors can be read that nothing mistakes for one another: no two are one
place, have one artifact, or declare one module. -/
structure Separates (d : Detector) (S : Finset Path) (node : Path → Descriptor) : Prop where
  read : ∀ p ∈ S, Descriptor.read d.files p = .ok (node p)
  descriptorKey : ∀ p ∈ S, ∀ q ∈ S, (node p).descriptorKey = (node q).descriptorKey → p = q
  key : ∀ p ∈ S, ∀ q ∈ S, (node p).key = (node q).key → p = q
  declarer : ∀ p ∈ S, ∀ q ∈ S, ∀ key ∈ (node p).moduleKeys, key ∈ (node q).moduleKeys → p = q

/-- Calls about descriptors of a set alone, all of which are preloaded. -/
structure Covers (S : Finset Path) (calls : List Call) : Prop where
  within : ∀ c ∈ calls, ∀ p ∈ c.path?, p ∈ S
  all : ∀ p ∈ S, .preload p ∈ calls

variable {d : Detector} {f g : Forest} {π : NodeId → NodeId}

theorem lineageEvents_map (π : NodeId → NodeId) (found : Except Failure Lineage) :
    lineageEvents (found.map (Lineage.renumber π)) = lineageEvents found := by
  cases found <;> rfl

section Renumbers

variable (h : f.Renumbers π g)

include h

theorem synthesizer_eq : d.synthesizer g = d.synthesizer f := by
  rw [synthesizer, sources, h.load, synthesizer, sources]

theorem view_renumber (leaf : Descriptor) (lineage : Option Lineage) (rendered : Option Rendered) :
    d.view g leaf (lineage.map (Lineage.renumber π)) rendered = d.view f leaf lineage rendered := by
  cases lineage with
  | none =>
    simp only [view, synthesizer_eq h]
    rfl
  | some l =>
    simp only [view, synthesizer_eq h, Option.map_some, Lineage.renumber, ← List.map_reverse,
      h.filterMap_nodes]

theorem owner_renumber (lineage : Option Lineage) :
    ((lineage.map (Lineage.renumber π)).bind Lineage.owner).bind (g.nodes[·]?) =
      (lineage.bind Lineage.owner).bind (f.nodes[·]?) := by
  cases lineage with
  | none => rfl
  | some l => exact h.bind_nodes l.owner

theorem requestEvent?_eq : d.requestEvent? g = d.requestEvent? f := by
  funext r
  rw [requestEvent?, h.load, requestEvent?]

theorem analyse_eq (directory path : Path) (leaf : Descriptor) :
    d.analyse g directory path leaf = d.analyse f directory path leaf := by
  have hlineage : (g.lineage leaf).toOption =
      (f.lineage leaf).toOption.map (Lineage.renumber π) := by
    rw [h.lineage]
    cases f.lineage leaf <;> rfl
  have hevents : lineageEvents (g.lineage leaf) = lineageEvents (f.lineage leaf) := by
    rw [h.lineage, lineageEvents_map]
  simp only [analyse, hevents, hlineage, view_renumber h, owner_renumber h, requestEvent?_eq h]

end Renumbers

def examine (d : Detector) (f : Forest) (directory path : Path) (leaf : Descriptor) :
    Option Project × List Event :=
  if leaf.isAggregator || leaf.isParentOnly then (none, [])
  else (d.analyse f directory path leaf).map some id

theorem isSome_examine (directory path : Path) (leaf : Descriptor) :
    (d.examine f directory path leaf).1.isSome = !(leaf.isAggregator || leaf.isParentOnly) := by
  rw [examine]
  cases leaf.isAggregator || leaf.isParentOnly <;> rfl

section Calls

variable {S : Finset Path} {node : Path → Descriptor} {directory p : Path}
  {entries : List DirEntry}

theorem preload_eq {e : Descriptor} (hread : Descriptor.read d.files p = .ok e) :
    d.preload f p = .ok (f.register e) := by
  obtain rfl : e.path = p := Descriptor.path_of_read hread
  -- a known descriptor is not read, but registering it would have changed nothing
  cases hid : f.byKey[e.descriptorKey]? with
  | some id =>
    have hknown : f.idOf? e.path = some id := hid
    rw [preload, hknown, Forest.register_of_known hid]
  | none =>
    have hnew : f.idOf? e.path = none := hid
    rw [preload, hnew, hread]
    rfl

theorem exists_entry (hpath : (Call.detect directory entries).path? = some p) :
    ∃ entry, descriptorEntry? entries = some entry ∧ directory.join ⟨entry.name⟩ = p :=
  Option.map_eq_some_iff.mp hpath

theorem exists_detect_eq {e : Descriptor} (hread : Descriptor.read d.files p = .ok e)
    (hpath : (Call.detect directory entries).path? = some p) :
    ∃ project events,
      d.detect f directory entries = .ok ⟨(f.register e).1, project, events⟩ := by
  obtain ⟨entry, hentry, rfl⟩ := exists_entry hpath
  simp only [detect, hentry, preload_eq hread]
  cases (f.register e).1.nodes[(f.register e).2]? with
  | none => exact ⟨none, [], rfl⟩
  | some leaf =>
    by_cases hkind : (leaf.isAggregator || leaf.isParentOnly) = true
    · exact ⟨none, [], by simp only [hkind, if_true]⟩
    · simp only [hkind]
      exact ⟨_, _, rfl⟩

theorem detect_of_node (hpath : (Call.detect directory entries).path? = some p) {id : NodeId}
    {leaf : Descriptor} (hid : f.idOf? p = some id) (hnode : f.nodes[id]? = some leaf) :
    d.detect f directory entries =
      .ok ⟨f, (d.examine f directory p leaf).1, (d.examine f directory p leaf).2⟩ := by
  obtain ⟨entry, hentry, rfl⟩ := exists_entry hpath
  simp only [detect, hentry, preload, hid, hnode, examine]
  split <;> rfl

theorem forestAfterCall_eq (hS : d.Separates S node) {c : Call} (hc : ∀ p ∈ c.path?, p ∈ S) :
    d.forestAfterCall f c = f.registerAll (c.path?.map node).toList := by
  cases c with
  | preload p =>
    rw [forestAfterCall, preload_eq (hS.read p (hc p rfl))]
    rfl
  | detect directory entries =>
    cases hpath : (Call.detect directory entries).path? with
    | none =>
      have hentry : descriptorEntry? entries = none := Option.map_eq_none_iff.mp hpath
      simp only [forestAfterCall, detect, hentry]
      rfl
    | some p =>
      obtain ⟨project, events, hdetect⟩ := exists_detect_eq (hS.read p (hc p hpath)) hpath
      rw [forestAfterCall, hdetect]
      rfl

theorem foldl_forestAfterCall (hS : d.Separates S node) {calls : List Call}
    (hcalls : ∀ c ∈ calls, ∀ p ∈ c.path?, p ∈ S) :
    calls.foldl d.forestAfterCall f = f.registerAll (calls.filterMap fun c ↦ c.path?.map node) := by
  induction calls generalizing f with
  | nil => rfl
  | cons c calls ih =>
    obtain ⟨hc, hrest⟩ := List.forall_mem_cons.mp hcalls
    rw [List.foldl_cons, ih hrest, forestAfterCall_eq hS hc, List.filterMap_cons]
    cases c.path?.map node <;> rfl

end Calls

section Covered

variable {S : Finset Path} {node : Path → Descriptor} {calls : List Call}
  (hS : d.Separates S node) (h : Covers S calls)

include hS h

theorem reachable_forestAfter : (d.forestAfter calls).Reachable := by
  rw [forestAfter, foldl_forestAfterCall hS h.within]
  exact Forest.Reachable.empty.registerAll _

theorem mem_forestAfter_iff {e : Descriptor} :
    e ∈ (d.forestAfter calls).nodes ↔ ∃ p ∈ S, node p = e := by
  have hnodes : ∀ e ∈ (d.forestAfter calls).nodes, ∃ p ∈ S, node p = e := by
    intro e he
    rw [forestAfter, foldl_forestAfterCall hS h.within] at he
    rcases Forest.mem_registerAll he with hempty | hmem
    · cases Array.not_mem_empty e hempty
    · obtain ⟨c, hc, hnode⟩ := List.mem_filterMap.mp hmem
      obtain ⟨p, hp, rfl⟩ := Option.map_eq_some_iff.mp hnode
      exact ⟨p, h.within c hc p hp, rfl⟩
  refine ⟨hnodes e, ?_⟩
  rintro ⟨p, hp, rfl⟩
  have hmem : node p ∈ calls.filterMap fun c ↦ c.path?.map node :=
    List.mem_filterMap.mpr ⟨.preload p, h.all p hp, rfl⟩
  obtain ⟨before, after, hsplit⟩ := List.append_of_mem hmem
  obtain ⟨e, he, hkey⟩ := Forest.Reachable.empty.node_registerAll before after (node p)
  rw [← hsplit, ← foldl_forestAfterCall hS h.within] at he
  -- a node with the key of `p` can only be that of `p`
  obtain ⟨q, hq, rfl⟩ := hnodes e (Array.mem_of_getElem? he)
  obtain rfl : q = p := hS.descriptorKey q hq p hp hkey
  exact Array.mem_of_getElem? he

theorem unambiguous_forestAfter : (d.forestAfter calls).Unambiguous where
  key e he e' he' hkey := by
    obtain ⟨p, hp, rfl⟩ := (mem_forestAfter_iff hS h).mp he
    obtain ⟨q, hq, rfl⟩ := (mem_forestAfter_iff hS h).mp he'
    rw [hS.key p hp q hq hkey]
  declarer e he e' he' key hkey hkey' := by
    obtain ⟨p, hp, rfl⟩ := (mem_forestAfter_iff hS h).mp he
    obtain ⟨q, hq, rfl⟩ := (mem_forestAfter_iff hS h).mp he'
    rw [hS.declarer p hp q hq key hkey hkey']

theorem exists_idOf?_forestAfter {p : Path} (hp : p ∈ S) :
    ∃ id, (d.forestAfter calls).idOf? p = some id ∧
      (d.forestAfter calls).nodes[id]? = some (node p) := by
  have hmem : node p ∈ (d.forestAfter calls).nodes := (mem_forestAfter_iff hS h).mpr ⟨p, hp, rfl⟩
  obtain ⟨id, hid⟩ := Array.mem_iff_getElem?.mp hmem
  have hpath : (node p).descriptorKey = p.descriptorKey := by
    rw [Descriptor.descriptorKey, Descriptor.path_of_read (hS.read p hp)]
  exact ⟨id, ((reachable_forestAfter hS h).byKey_eq_some_iff _ _).mpr ⟨_, hid, hpath⟩, hid⟩

end Covered

/-- Once all descriptors of a set have been loaded, in whatever order and with whatever detections
in between, detection in a directory of one of them finds the same. -/
theorem detect_eq_of_covers {S : Finset Path} {node : Path → Descriptor} {calls calls' : List Call}
    {directory : Path} {entries : List DirEntry} (hS : d.Separates S node) (h : Covers S calls)
    (h' : Covers S calls')
    (hdirectory : ∃ p ∈ S, (Call.detect directory entries).path? = some p) :
    ∃ (project : Option Project) (events : List Event),
      d.detect (d.forestAfter calls) directory entries =
          .ok ⟨d.forestAfter calls, project, events⟩ ∧
        d.detect (d.forestAfter calls') directory entries =
          .ok ⟨d.forestAfter calls', project, events⟩ := by
  obtain ⟨p, hp, hpath⟩ := hdirectory
  obtain ⟨id, hid, hnode⟩ := exists_idOf?_forestAfter hS h hp
  obtain ⟨id', hid', hnode'⟩ := exists_idOf?_forestAfter hS h' hp
  have hsame : ∀ e, e ∈ (d.forestAfter calls).nodes ↔ e ∈ (d.forestAfter calls').nodes := by
    intro e
    rw [mem_forestAfter_iff hS h, mem_forestAfter_iff hS h']
  have hrenumbers : (d.forestAfter calls).Renumbers
      ((d.forestAfter calls).numberIn (d.forestAfter calls')) (d.forestAfter calls') :=
    Forest.renumbers_numberIn (reachable_forestAfter hS h) (reachable_forestAfter hS h') hsame
      (unambiguous_forestAfter hS h)
  have hexamine : d.examine (d.forestAfter calls') directory p (node p) =
      d.examine (d.forestAfter calls) directory p (node p) := by
    rw [examine, analyse_eq hrenumbers, examine]
  refine ⟨_, _, detect_of_node hpath hid hnode, ?_⟩
  rw [detect_of_node hpath hid' hnode', hexamine]

section Service

def projectPath : Path := ⟨"/mock/pom.xml"⟩

def servicePath : Path := ⟨"/mock/service/pom.xml"⟩

def projectText : String :=
  "<project><groupId>g</groupId><artifactId>root</artifactId><version>1</version>" ++
    "<modules><module>service</module></modules></project>"

def serviceText : String :=
  "<project><parent><groupId>g</groupId><artifactId>root</artifactId>" ++
    "<version>1</version></parent><artifactId>service</artifactId></project>"

def projectNode : Descriptor :=
  { Descriptor.bare "root" with path := projectPath, packaging := none, modules := ["service"] }

def serviceNode : Descriptor :=
  { Descriptor.bare "service" with
    path := servicePath
    parent := some ⟨.bare "root", none⟩
    packaging := none }

def serviceDetector : Detector where
  files := ((Memory.ofRoot ⟨"/mock"⟩).addFile projectPath projectText
    |>.addFile servicePath serviceText).view
  table := .standard
  repository := none
  renderer := none
  isCancelled := false
  maxImportDepth := Synthesizer.standardDepth

def nodeAt (path : Path) : Descriptor := if path = projectPath then projectNode else serviceNode

def serviceEntries : List DirEntry := [⟨servicePath, "pom.xml", .file⟩]

set_option maxRecDepth 20000 in
theorem read_project : Descriptor.read serviceDetector.files projectPath = .ok projectNode := by
  have htext : serviceDetector.files.read projectPath = .ok projectText := by decide +kernel
  rw [Descriptor.read, htext]
  rfl

set_option maxRecDepth 20000 in
theorem read_service : Descriptor.read serviceDetector.files servicePath = .ok serviceNode := by
  have htext : serviceDetector.files.read servicePath = .ok serviceText := by decide +kernel
  rw [Descriptor.read, htext]
  rfl

theorem separates_service : serviceDetector.Separates {projectPath, servicePath} nodeAt where
  read := by
    intro p hp
    rcases Finset.mem_insert.mp hp with rfl | hp
    · exact read_project
    · obtain rfl := Finset.mem_singleton.mp hp
      exact read_service
  descriptorKey := by decide +kernel
  key := by decide +kernel
  declarer := by decide +kernel

def projectFirst : List Call := [.preload projectPath, .preload servicePath]

def serviceFirst : List Call :=
  [.preload servicePath, .detect ⟨"/mock/service"⟩ serviceEntries, .preload projectPath]

theorem covers_projectFirst : Covers {projectPath, servicePath} projectFirst where
  within := by decide +kernel
  all := by decide +kernel

theorem covers_serviceFirst : Covers {projectPath, servicePath} serviceFirst where
  within := by decide +kernel
  all := by decide +kernel

theorem service_detected_alike :
    serviceDetector.Separates {projectPath, servicePath} nodeAt ∧
      Covers {projectPath, servicePath} projectFirst ∧
      Covers {projectPath, servicePath} serviceFirst ∧
      ∃ project events,
        serviceDetector.detect (serviceDetector.forestAfter projectFirst) ⟨"/mock/service"⟩
            serviceEntries =
          .ok ⟨serviceDetector.forestAfter projectFirst, some project, events⟩ ∧
        serviceDetector.detect (serviceDetector.forestAfter serviceFirst) ⟨"/mock/service"⟩
            serviceEntries =
          .ok ⟨serviceDetector.forestAfter serviceFirst, some project, events⟩ := by
  refine ⟨separates_service, covers_projectFirst, covers_serviceFirst, ?_⟩
  have hservice : servicePath ∈ ({projectPath, servicePath} : Finset Path) := by decide
  have hpath : (Call.detect ⟨"/mock/service"⟩ serviceEntries).path? = some servicePath := by decide
  obtain ⟨project, events, hfirst, hsecond⟩ := detect_eq_of_covers separates_service
    covers_projectFirst covers_serviceFirst ⟨servicePath, hservice, hpath⟩
  obtain ⟨id, hid, hnode⟩ := exists_idOf?_forestAfter separates_service covers_projectFirst hservice
  have hfound := Except.ok.inj ((detect_of_node hpath hid hnode).symm.trans hfirst)
  have hsome : project.isSome := by
    rw [← (Detection.mk.inj hfound).2.1, isSome_examine]
    decide +kernel
  obtain ⟨project, rfl⟩ := Option.isSome_iff_exists.mp hsome
  exact ⟨project, events, hfirst, hsecond⟩

end Service

end Detector

end Reactor
