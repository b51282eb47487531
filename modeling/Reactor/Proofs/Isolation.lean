import Mathlib.Data.List.Forall2
import Mathlib.Data.List.Pairwise
import Reactor.Proofs.VisitingOrder

namespace Reactor

theorem eq_error_of_map {ε α β : Type} {f : α → β} {x : Except ε α} {e : ε}
    (h : x.map f = .error e) : x = .error e := by
  cases x with
  | error e' =>
    obtain rfl : e' = e := Except.error.inj h
    rfl
  | ok a => cases h

theorem forall₂_filterMap {α β : Type} {R : α → β → Prop} {p : α → Bool} {f : α → Option β}
    {xs : List α} (hsome : ∀ x ∈ xs, p x = true → ∃ y, f x = some y ∧ R x y)
    (hnone : ∀ x ∈ xs, p x = false → f x = none) :
    List.Forall₂ R (xs.filter p) (xs.filterMap f) := by
  induction xs with
  | nil => exact .nil
  | cons x xs ih =>
    obtain ⟨hx, hxs⟩ := List.forall_mem_cons.mp hsome
    obtain ⟨hx', hxs'⟩ := List.forall_mem_cons.mp hnone
    cases hp : p x with
    | true =>
      obtain ⟨y, hy, hR⟩ := hx hp
      rw [List.filter_cons_of_pos hp, List.filterMap_cons_some hy]
      exact .cons hR (ih hxs hxs')
    | false =>
      rw [List.filter_cons_of_neg (by simp [hp]), List.filterMap_cons_none (hx' hp)]
      exact ih hxs hxs'

namespace Forest

variable {f : Forest} {e : Failure}

theorem parentsFrom_eq_cyclic {start : Descriptor} {remaining : Nat} {visited : List ArtifactKey}
    {parent : Option ArtifactKey} (h : f.parentsFrom start remaining visited parent = .error e) :
    ∃ key, e = .cyclic start.path key := by
  fun_induction f.parentsFrom start remaining visited parent with
  | case1 | case2 => cases h
  | case3 | case4 => exact ⟨_, (Except.error.inj h).symm⟩
  | case5 _ _ _ _ _ _ _ ih => exact ih (eq_error_of_map h)

theorem lineage_eq_cyclic {leaf : Descriptor} (h : f.lineage leaf = .error e) :
    ∃ key, e = .cyclic leaf.path key :=
  parentsFrom_eq_cyclic (eq_error_of_map h)

end Forest

namespace Detector

section Actions

/-- A call on a detector, step by step: what it has done to the forest stays done if it fails. -/
abbrev Action := ExceptT Failure (StateM Forest)

variable (d : Detector)

def preloading (path : Path) : Action NodeId := do
  match (← get).idOf? path with
  | some id => return id
  | none =>
    let node ← MonadExcept.ofExcept (Descriptor.read d.files path)
    modifyGet fun f ↦ ((f.register node).2, (f.register node).1)

/-- Of all that may keep a leaf from its lineage only a cycle is forgiven. -/
def detecting (directory : Path) (entries : List DirEntry) :
    Action (Option Project × List Event) := do
  match descriptorEntry? entries with
  | none => return (none, [])
  | some entry =>
    let path := directory.join ⟨entry.name⟩
    let id ← d.preloading path
    let f ← get
    match f.nodes[id]? with
    | none => return (none, [])
    | some leaf =>
      if leaf.isAggregator || leaf.isParentOnly then return (none, [])
      else match f.lineage leaf with
        | .ok _ | .error (.cyclic ..) =>
          let (project, events) := d.analyse f directory path leaf
          return (some project, events)
        | .error e => throw e

variable {d}

theorem action_bind {α β : Type} (x : Action α) (k : α → Action β) (f : Forest) :
    (x >>= k) f = match x f with
      | (.ok a, g) => k a g
      | (.error e, g) => (.error e, g) := by
  change (ExceptT.bindCont k (x f).1) (x f).2 = _
  rcases x f with ⟨e | a, g⟩ <;> rfl

theorem action_get (f : Forest) : (get : Action Forest) f = (.ok f, f) := rfl

theorem preloading_run (f : Forest) (path : Path) :
    d.preloading path f = match d.preload f path with
      | .ok (g, id) => (.ok id, g)
      | .error e => (.error e, f) := by
  rw [preloading, action_bind, action_get, preload]
  dsimp only
  cases f.idOf? path with
  | some id => rfl
  | none => cases Descriptor.read d.files path <;> rfl

def examineNode (d : Detector) (f : Forest) (directory path : Path) (id : NodeId) :
    Option Project × List Event :=
  (f.nodes[id]?.map (d.examine f directory path)).getD (none, [])

theorem detect_eq_map (f : Forest) (directory : Path) (entries : List DirEntry) :
    d.detect f directory entries = match (Call.detect directory entries).path? with
      | none => .ok ⟨f, none, []⟩
      | some path => (d.preload f path).map fun loaded ↦
        ⟨loaded.1, (d.examineNode loaded.1 directory path loaded.2).1,
          (d.examineNode loaded.1 directory path loaded.2).2⟩ := by
  rw [detect, Call.path?]
  cases descriptorEntry? entries with
  | none => rfl
  | some entry =>
    dsimp only [Option.map_some]
    cases d.preload f (directory.join ⟨entry.name⟩) with
    | error e => rfl
    | ok loaded =>
      obtain ⟨g, id⟩ := loaded
      dsimp only [Except.map, examineNode]
      cases g.nodes[id]? with
      | none => rfl
      | some leaf =>
        dsimp only [Option.map_some, Option.getD_some]
        rw [examine]
        cases leaf.isAggregator || leaf.isParentOnly <;> rfl

theorem detecting_run (f : Forest) (directory : Path) (entries : List DirEntry) :
    d.detecting directory entries f = match d.detect f directory entries with
      | .ok found => (.ok (found.project, found.events), found.forest)
      | .error e => (.error e, f) := by
  rw [detecting, detect_eq_map, Call.path?]
  cases descriptorEntry? entries with
  | none => rfl
  | some entry =>
    dsimp only [Option.map_some]
    rw [action_bind, preloading_run]
    cases d.preload f (directory.join ⟨entry.name⟩) with
    | error e => rfl
    | ok loaded =>
      obtain ⟨g, id⟩ := loaded
      dsimp only [Except.map]
      rw [action_bind, action_get]
      dsimp only [examineNode]
      cases g.nodes[id]? with
      | none => rfl
      | some leaf =>
        dsimp only [Option.map_some, Option.getD_some]
        rw [examine]
        cases leaf.isAggregator || leaf.isParentOnly with
        | true => rfl
        | false =>
          -- a cycle is the only failure, and it is forgiven
          cases hlineage : g.lineage leaf with
          | ok lineage => rfl
          | error e =>
            obtain ⟨key, rfl⟩ := Forest.lineage_eq_cyclic hlineage
            rfl

theorem preload_of_preloading_error {f g : Forest} {path : Path} {e : Failure}
    (h : d.preloading path f = (.error e, g)) : d.preload f path = .error e ∧ g = f := by
  rw [preloading_run] at h
  cases hpreload : d.preload f path with
  | ok loaded =>
    rw [hpreload] at h
    cases h
  | error e' =>
    rw [hpreload] at h
    cases h
    exact ⟨rfl, rfl⟩

theorem detect_of_detecting_error {f g : Forest} {directory : Path} {entries : List DirEntry}
    {e : Failure} (h : d.detecting directory entries f = (.error e, g)) :
    d.detect f directory entries = .error e ∧ g = f := by
  rw [detecting_run] at h
  cases hdetect : d.detect f directory entries with
  | ok found =>
    rw [hdetect] at h
    cases h
  | error e' =>
    rw [hdetect] at h
    cases h
    exact ⟨rfl, rfl⟩

end Actions

end Detector

def Visit.path? (v : Visit) : Option Path := (Call.detect v.1 v.2).path?

def Visit.Apart (v w : Visit) : Prop :=
  ∀ p ∈ Visit.path? v, ∀ q ∈ Visit.path? w, p.descriptorKey ≠ q.descriptorKey

instance (v w : Visit) : Decidable (Visit.Apart v w) :=
  inferInstanceAs (Decidable (∀ p ∈ Visit.path? v, ∀ q ∈ Visit.path? w,
    p.descriptorKey ≠ q.descriptorKey))

instance : Std.Symm Visit.Apart where
  symm _ _ h q hq p hp := (h p hp q hq).symm

def DistinctDescriptors (visits : List Visit) : Prop := visits.Pairwise Visit.Apart

instance (visits : List Visit) : Decidable (DistinctDescriptors visits) :=
  inferInstanceAs (Decidable (visits.Pairwise Visit.Apart))

theorem DistinctDescriptors.eq_of_key {visits : List Visit} (h : DistinctDescriptors visits)
    {v w : Visit} {p q : Path} (hv : v ∈ visits) (hw : w ∈ visits) (hp : Visit.path? v = some p)
    (hq : Visit.path? w = some q) (hkey : p.descriptorKey = q.descriptorKey) : v = w := by
  by_contra hne
  have hapart : Visit.Apart v w := List.Pairwise.forall h hv hw hne
  exact hapart p hp q hq hkey

namespace Detector

variable (d : Detector)

def descriptorOf? (v : Visit) : Option Descriptor :=
  (Visit.path? v).bind fun p ↦ (Descriptor.read d.files p).toOption

def holdsApplication (v : Visit) : Bool :=
  (d.descriptorOf? v).any fun leaf ↦ !(leaf.isAggregator || leaf.isParentOnly)

def forestOf (visits : List Visit) : Forest :=
  Forest.empty.registerAll (visits.filterMap d.descriptorOf?)

def projectOf? (f : Forest) (v : Visit) : Option Project :=
  (d.descriptorOf? v).bind fun leaf ↦ (d.examine f v.1 leaf.path leaf).1

structure Knows (d : Detector) (f : Forest) (v : Visit) : Prop where
  readable : ∀ leaf ∈ d.descriptorOf? v, ∃ id, f.idOf? leaf.path = some id ∧
    f.nodes[id]? = some leaf
  unreadable : ∀ p ∈ Visit.path? v, d.descriptorOf? v = none → f.idOf? p = none

variable {d}

theorem descriptorOf?_of_path {v : Visit} {p : Path} (h : Visit.path? v = some p) :
    d.descriptorOf? v = (Descriptor.read d.files p).toOption := by
  rw [descriptorOf?, h, Option.bind_some]

theorem descriptorOf?_eq_some_iff {v : Visit} {leaf : Descriptor} :
    d.descriptorOf? v = some leaf ↔
      Visit.path? v = some leaf.path ∧ Descriptor.read d.files leaf.path = .ok leaf := by
  rw [descriptorOf?, Option.bind_eq_some_iff]
  constructor
  · rintro ⟨p, hp, hread⟩
    cases h : Descriptor.read d.files p with
    | error e =>
      rw [h] at hread
      cases hread
    | ok e =>
      rw [h] at hread
      obtain rfl : e = leaf := Option.some.inj hread
      obtain rfl : e.path = p := Descriptor.path_of_read h
      exact ⟨hp, h⟩
  · rintro ⟨hp, hread⟩
    exact ⟨leaf.path, hp, by rw [hread]; rfl⟩

theorem descriptorOf?_eq_none_iff {v : Visit} :
    d.descriptorOf? v = none ↔
      ∀ p, Visit.path? v = some p → ∃ e, Descriptor.read d.files p = .error e := by
  rw [descriptorOf?, Option.bind_eq_none_iff]
  refine forall₂_congr fun p _ ↦ ?_
  cases Descriptor.read d.files p <;> simp [Except.toOption]

section Knows

variable {visits : List Visit} {f : Forest} {v : Visit}

theorem exists_visit_of_node {e : Descriptor} (h : e ∈ (d.forestOf visits).nodes) :
    ∃ v ∈ visits, d.descriptorOf? v = some e := by
  rcases Forest.mem_registerAll h with hempty | hmem
  · cases Array.not_mem_empty e hempty
  · exact List.mem_filterMap.mp hmem

theorem knows_forestOf (h : DistinctDescriptors visits) (hv : v ∈ visits) :
    d.Knows (d.forestOf visits) v := by
  have hreachable : (d.forestOf visits).Reachable := Forest.Reachable.empty.registerAll _
  constructor
  · intro leaf hleaf
    have hmem : leaf ∈ visits.filterMap d.descriptorOf? := List.mem_filterMap.mpr ⟨v, hv, hleaf⟩
    obtain ⟨before, after, hsplit⟩ := List.append_of_mem hmem
    obtain ⟨e, hnode, hkey⟩ := Forest.Reachable.empty.node_registerAll before after leaf
    rw [← hsplit] at hnode
    obtain ⟨w, hw, he⟩ := exists_visit_of_node (Array.mem_of_getElem? hnode)
    -- the node with the key of the leaf is read in the same directory, so it is the leaf
    obtain rfl : w = v := h.eq_of_key hw hv (descriptorOf?_eq_some_iff.mp he).1
      (descriptorOf?_eq_some_iff.mp hleaf).1 hkey
    obtain rfl : e = leaf := Option.some.inj (he.symm.trans hleaf)
    exact ⟨_, (hreachable.byKey_eq_some_iff _ _).mpr ⟨e, hnode, rfl⟩, hnode⟩
  · intro p hp hnone
    by_contra hknown
    obtain ⟨id, hid⟩ := Option.ne_none_iff_exists'.mp hknown
    obtain ⟨e, hnode, hkey⟩ := (hreachable.byKey_eq_some_iff _ _).mp hid
    obtain ⟨w, hw, he⟩ := exists_visit_of_node (Array.mem_of_getElem? hnode)
    obtain rfl : w = v := h.eq_of_key hw hv (descriptorOf?_eq_some_iff.mp he).1 hp hkey
    rw [hnone] at he
    cases he

theorem Knows.detect_of_readable (h : d.Knows f v) {leaf : Descriptor}
    (hleaf : d.descriptorOf? v = some leaf) :
    d.detect f v.1 v.2 = .ok ⟨f, (d.examine f v.1 leaf.path leaf).1,
      (d.examine f v.1 leaf.path leaf).2⟩ := by
  obtain ⟨id, hid, hnode⟩ := h.readable leaf hleaf
  exact detect_of_node (descriptorOf?_eq_some_iff.mp hleaf).1 hid hnode

theorem isSome_projectOf? (f : Forest) (v : Visit) :
    (d.projectOf? f v).isSome = d.holdsApplication v := by
  rw [projectOf?, holdsApplication]
  cases d.descriptorOf? v with
  | none => rfl
  | some leaf => exact isSome_examine v.1 leaf.path leaf

theorem path_of_examine {directory path : Path} {leaf : Descriptor} {project : Project}
    (h : (d.examine f directory path leaf).1 = some project) : project.path = directory := by
  rw [examine] at h
  split at h
  · cases h
  · obtain rfl : (d.analyse f directory path leaf).1 = project := Option.some.inj h
    rfl

theorem Knows.detect_of_project (h : d.Knows f v) {project : Project}
    (hproject : d.projectOf? f v = some project) :
    project.path = v.1 ∧ ∃ events, d.detect f v.1 v.2 = .ok ⟨f, some project, events⟩ := by
  obtain ⟨leaf, hleaf, hexamine⟩ := Option.bind_eq_some_iff.mp hproject
  refine ⟨path_of_examine hexamine, (d.examine f v.1 leaf.path leaf).2, ?_⟩
  rw [h.detect_of_readable hleaf, hexamine]

theorem preload_of_unreadable {p : Path} {e : Failure} (hid : f.idOf? p = none)
    (hread : Descriptor.read d.files p = .error e) : d.preload f p = .error e := by
  rw [preload, hid, hread]
  rfl

theorem detect_of_unreadable {directory : Path} {entries : List DirEntry} {p : Path} {e : Failure}
    (hpath : (Call.detect directory entries).path? = some p) (hid : f.idOf? p = none)
    (hread : Descriptor.read d.files p = .error e) :
    d.detect f directory entries = .error e := by
  simp only [detect_eq_map, hpath, preload_of_unreadable hid hread]
  rfl

end Knows

end Detector

namespace Survey

open Detector

variable {d : Detector} {s : Survey} {v : Visit}

theorem preload_outcome (d : Detector) (s : Survey) (v : Visit) :
    (s.preload d v).forest = s.forest.registerAll (d.descriptorOf? v).toList ∧
      (s.preload d v).projects = s.projects := by
  cases hpath : Visit.path? v with
  | none =>
    have hentry : descriptorEntry? v.2 = none := Option.map_eq_none_iff.mp hpath
    simp only [Survey.preload, hentry, descriptorOf?, hpath]
    exact ⟨rfl, trivial⟩
  | some p =>
    obtain ⟨entry, hentry, rfl⟩ := exists_entry hpath
    rw [descriptorOf?_of_path hpath]
    cases hread : Descriptor.read d.files (v.1.join ⟨entry.name⟩) with
    | ok leaf =>
      simp only [Survey.preload, hentry, preload_eq hread]
      exact ⟨rfl, trivial⟩
    | error e =>
      cases hid : s.forest.idOf? (v.1.join ⟨entry.name⟩) with
      | some id =>
        simp only [Survey.preload, hentry, Detector.preload, hid]
        exact ⟨rfl, trivial⟩
      | none =>
        simp only [Survey.preload, hentry, preload_of_unreadable hid hread]
        exact ⟨rfl, rfl⟩

theorem foldl_preload_outcome (d : Detector) (visits : List Visit) (s : Survey) :
    (visits.foldl (preload d) s).forest = s.forest.registerAll (visits.filterMap d.descriptorOf?) ∧
      (visits.foldl (preload d) s).projects = s.projects := by
  induction visits generalizing s with
  | nil => exact ⟨rfl, rfl⟩
  | cons v visits ih =>
    obtain ⟨hforest, hprojects⟩ := ih (s.preload d v)
    obtain ⟨hforest', hprojects'⟩ := preload_outcome d s v
    rw [List.foldl_cons, hforest, hprojects, hforest', hprojects', List.filterMap_cons]
    refine ⟨?_, rfl⟩
    cases d.descriptorOf? v <;> rfl

theorem detect_outcome (h : d.Knows s.forest v) :
    (s.detect d v).forest = s.forest ∧
      (s.detect d v).projects = s.projects ++ (d.projectOf? s.forest v).toList := by
  cases hleaf : d.descriptorOf? v with
  | some leaf =>
    rw [Survey.detect, h.detect_of_readable hleaf, projectOf?, hleaf]
    exact ⟨rfl, rfl⟩
  | none =>
    rw [projectOf?, hleaf, Option.bind_none, Option.toList_none, List.append_nil]
    cases hpath : Visit.path? v with
    | none =>
      have hdetect : d.detect s.forest v.1 v.2 = .ok ⟨s.forest, none, []⟩ := by
        rw [detect_eq_map, show (Call.detect v.1 v.2).path? = none from hpath]
      rw [Survey.detect, hdetect]
      exact ⟨rfl, List.append_nil _⟩
    | some p =>
      obtain ⟨e, hread⟩ := descriptorOf?_eq_none_iff.mp hleaf p hpath
      rw [Survey.detect, detect_of_unreadable hpath (h.unreadable p hpath hleaf) hread]
      exact ⟨rfl, rfl⟩

theorem foldl_detect_outcome {visits : List Visit} (h : ∀ v ∈ visits, d.Knows s.forest v) :
    (visits.foldl (detect d) s).forest = s.forest ∧
      (visits.foldl (detect d) s).projects =
        s.projects ++ visits.filterMap (d.projectOf? s.forest) := by
  induction visits generalizing s with
  | nil => exact ⟨rfl, (List.append_nil _).symm⟩
  | cons v visits ih =>
    obtain ⟨hv, hrest⟩ := List.forall_mem_cons.mp h
    obtain ⟨hforest, hprojects⟩ := detect_outcome hv
    rw [← hforest] at hrest
    obtain ⟨hforest', hprojects'⟩ := ih hrest
    rw [List.foldl_cons, hforest', hprojects', hforest, hprojects, List.filterMap_cons]
    refine ⟨rfl, ?_⟩
    cases d.projectOf? s.forest v <;> simp

theorem ofVisits_outcome (hcancel : d.isCancelled = false) {visits : List Visit}
    (h : DistinctDescriptors visits) :
    (ofVisits d visits (.ofForest .empty)).forest = d.forestOf visits ∧
      (ofVisits d visits (.ofForest .empty)).projects =
        visits.filterMap (d.projectOf? (d.forestOf visits)) := by
  obtain ⟨hforest, hprojects⟩ := foldl_preload_outcome d visits (.ofForest .empty)
  have hknows : ∀ v ∈ visits, d.Knows (visits.foldl (preload d) (.ofForest .empty)).forest v := by
    intro v hv
    rw [hforest]
    exact knows_forestOf h hv
  obtain ⟨hforest', hprojects'⟩ := foldl_detect_outcome hknows
  simp only [ofVisits, hcancel, Bool.false_and, Bool.false_eq_true, if_false]
  rw [hforest', hprojects', hprojects, hforest]
  exact ⟨rfl, List.nil_append _⟩

section Mixed

def brokenPath : Path := ⟨"/mock/broken/pom.xml"⟩

def mixedDetector : Detector :=
  { serviceDetector with
    files := { serviceDetector.files with
      read := fun path ↦
        if path = brokenPath then .ok "<project>" else serviceDetector.files.read path }
    renderer := some fun _ ↦ .error (.other "no tool") }

theorem read_mixed {path : Path} (h : path ≠ brokenPath) :
    Descriptor.read mixedDetector.files path = Descriptor.read serviceDetector.files path := by
  have htext : mixedDetector.files.read path = serviceDetector.files.read path := if_neg h
  rw [Descriptor.read, htext, Descriptor.read]

theorem read_broken :
    Descriptor.read mixedDetector.files brokenPath = .error (.malformed brokenPath .notXml) := by
  have htext : mixedDetector.files.read brokenPath = .ok "<project>" := by simp [mixedDetector]
  rw [Descriptor.read, htext]
  rfl

def projectVisit : Visit := (⟨"/mock"⟩, [⟨projectPath, "pom.xml", .file⟩])

def brokenVisit : Visit := (⟨"/mock/broken"⟩, [⟨brokenPath, "pom.xml", .file⟩])

def serviceVisit : Visit := (⟨"/mock/service"⟩, serviceEntries)

theorem descriptorOf?_project : mixedDetector.descriptorOf? projectVisit = some projectNode :=
  descriptorOf?_eq_some_iff.mpr
    ⟨by decide +kernel, (read_mixed (by decide +kernel)).trans read_project⟩

theorem descriptorOf?_service : mixedDetector.descriptorOf? serviceVisit = some serviceNode :=
  descriptorOf?_eq_some_iff.mpr
    ⟨by decide +kernel, (read_mixed (by decide +kernel)).trans read_service⟩

theorem descriptorOf?_broken : mixedDetector.descriptorOf? brokenVisit = none := by
  rw [descriptorOf?_of_path (p := brokenPath) (by decide +kernel), read_broken]
  rfl

end Mixed

end Survey

end Reactor
