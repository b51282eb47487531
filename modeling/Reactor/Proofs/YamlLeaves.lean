import Reactor.Proofs.ConfigurationLayers
import Reactor.Proofs.YamlPlaces

namespace Reactor

namespace Yaml

structure Leaf where
  document : Nat
  place : Place
  text : String

namespace Leaf

def path (leaf : Leaf) : String := placeText leaf.place

def definition (leaf : Leaf) : Definition := (leaf.path, leaf.text)

def address (leaf : Leaf) : List Nat := leaf.document :: leaf.place.map Step.position

end Leaf

/-- The scalars of the documents, apart from documents that are scalars. -/
def IsLeaf (documents : List Value) (leaf : Leaf) : Prop :=
  leaf.place ≠ [] ∧ ∃ v w, documents[leaf.document]? = some v ∧ v.Stands leaf.place w ∧
    w.scalarText? = some leaf.text

structure IsLast (documents : List Value) (path : String) (leaf : Leaf) : Prop where
  isLeaf : IsLeaf documents leaf
  path_eq : leaf.path = path
  last : ∀ other, IsLeaf documents other → other.path = path → other ≠ leaf →
    other.address < leaf.address

section Stream

def leaf? (document : Nat) : Place × String → Option Leaf
  | ([], _) => none
  | (step :: rest, text) => some ⟨document, step :: rest, text⟩

def leafList (documents : List Value) : List Leaf :=
  documents.zipIdx.flatMap fun d ↦ d.1.positioned.filterMap (leaf? d.2)

variable {documents : List Value} {leaf : Leaf}

theorem leaf?_eq_some_iff {n : Nat} {scalar : Place × String} :
    leaf? n scalar = some leaf ↔
      leaf.place ≠ [] ∧ leaf.document = n ∧ (leaf.place, leaf.text) = scalar := by
  obtain ⟨document, place, text⟩ := leaf
  obtain ⟨place', text'⟩ := scalar
  cases place' with
  | nil =>
    constructor
    · rintro ⟨⟩
    · rintro ⟨hne, -, heq⟩
      exact (hne (congrArg Prod.fst heq)).elim
  | cons step rest =>
    constructor
    · rintro ⟨⟩
      exact ⟨List.cons_ne_nil step rest, rfl, rfl⟩
    · rintro ⟨-, rfl, heq⟩
      cases heq
      rfl

theorem mem_leafList : leaf ∈ leafList documents ↔ IsLeaf documents leaf := by
  constructor
  · intro h
    obtain ⟨⟨v, n⟩, hv, hmem⟩ := List.mem_flatMap.mp h
    obtain ⟨scalar, hscalar, hleaf⟩ := List.mem_filterMap.mp hmem
    obtain ⟨hplace, rfl, rfl⟩ := leaf?_eq_some_iff.mp hleaf
    obtain ⟨w, hw, htext⟩ := Value.mem_positioned.mp hscalar
    exact ⟨hplace, v, w, List.mk_mem_zipIdx_iff_getElem?.mp hv, hw, htext⟩
  · rintro ⟨hplace, v, w, hv, hw, htext⟩
    refine List.mem_flatMap.mpr ⟨(v, leaf.document), List.mk_mem_zipIdx_iff_getElem?.mpr hv, ?_⟩
    exact List.mem_filterMap.mpr ⟨(leaf.place, leaf.text), Value.mem_positioned.mpr ⟨w, hw, htext⟩,
      leaf?_eq_some_iff.mpr ⟨hplace, rfl, rfl⟩⟩

theorem leafList_increasing (documents : List Value) :
    (leafList documents).Pairwise (·.address < ·.address) := by
  refine List.pairwise_flatMap.mpr ⟨?_, ?_⟩
  -- leaves of one document
  · intro d _
    refine List.pairwise_filterMap.mpr (d.1.positioned_increasing.imp ?_)
    intro s t hlt a ha b hb
    obtain ⟨-, hda, rfl⟩ := leaf?_eq_some_iff.mp ha
    obtain ⟨-, hdb, rfl⟩ := leaf?_eq_some_iff.mp hb
    exact List.cons_lt_cons_iff.mpr (.inr ⟨hda.trans hdb.symm, hlt⟩)
  -- leaves of different documents
  · refine (zipIdx_increasing documents 0).imp ?_
    intro d e hlt a ha b hb
    obtain ⟨s, -, ha⟩ := List.mem_filterMap.mp ha
    obtain ⟨t, -, hb⟩ := List.mem_filterMap.mp hb
    obtain ⟨-, hda, -⟩ := leaf?_eq_some_iff.mp ha
    obtain ⟨-, hdb, -⟩ := leaf?_eq_some_iff.mp hb
    refine List.cons_lt_cons_iff.mpr (.inl ?_)
    rwa [hda, hdb]

theorem definitions_eq (h : ∀ v ∈ documents, v.keysNamed = true) :
    documents.flatMap (Value.leaves "") = (leafList documents).map Leaf.definition := by
  conv_lhs => rw [← List.zipIdx_map_fst 0 documents, List.flatMap_map]
  rw [leafList, List.map_flatMap]
  refine List.flatMap_congr fun d hd ↦ ?_
  rw [Value.leaves_eq_filterMap, List.map_filterMap]
  refine List.filterMap_congr ?_
  rintro ⟨_ | ⟨step, rest⟩, text⟩ hscalar
  -- a document that is a scalar has no path and defines nothing
  · rfl
  · obtain ⟨w, hw, -⟩ := Value.mem_positioned.mp hscalar
    have hnamed := hw.named (h d.1 (List.fst_mem_of_mem_zipIdx hd))
    obtain ⟨hpath, hne⟩ := foldl_path_of_named (List.cons_ne_nil step rest) hnamed
    simp [Value.definition?, hpath, hne, leaf?, Leaf.definition, Leaf.path]

theorem isLast_of_lookup {path text : String}
    (h : ((leafList documents).map Leaf.definition).reverse.lookup path = some text) :
    ∃ leaf, IsLast documents path leaf ∧ leaf.text = text := by
  obtain ⟨later, earlier, hsplit, hlater⟩ := List.lookup_eq_some_iff.mp h
  rw [← List.map_reverse, List.map_eq_append_iff] at hsplit
  -- in the reversed list the leaves that come after the found one in the text stand before it
  obtain ⟨after, rest, hlist, rfl, hrest⟩ := hsplit
  obtain ⟨leaf, before, rfl, hleaf, rfl⟩ := List.map_eq_cons_iff.mp hrest
  cases hleaf
  have hmem (other : Leaf) : IsLeaf documents other ↔ other ∈ after ++ leaf :: before := by
    rw [← mem_leafList, ← hlist, List.mem_reverse]
  have hdecreasing : (after ++ leaf :: before).Pairwise (·.address > ·.address) := by
    rw [← hlist, List.pairwise_reverse]
    exact leafList_increasing documents
  refine ⟨leaf, ⟨(hmem leaf).mpr (by simp), rfl, ?_⟩, rfl⟩
  intro other hother hpath hne
  rcases List.mem_append.mp ((hmem other).mp hother) with hafter | hbefore
  · have hdiffers := hlater _ (List.mem_map_of_mem hafter)
    simp [Leaf.definition, hpath] at hdiffers
  · have hbefore : other ∈ before := (List.mem_cons.mp hbefore).resolve_left hne
    exact (List.pairwise_cons.mp (List.pairwise_append.mp hdecreasing).2.1).1 other hbefore

end Stream

end Yaml

namespace Overlay

def applyYaml (overlay : Overlay) (text : String) : Overlay :=
  overlay.define ((yamlDefinitions text).toOption.getD [])

inductive BrokenYaml (text : String) : Prop
  | stream {fault : Yaml.Malformed} :
      Yaml.Document.readAll text.toList = .error fault → BrokenYaml text
  | document {documents : List Yaml.Document} {document : Yaml.Document} {fault : Yaml.Malformed} :
      Yaml.Document.readAll text.toList = .ok documents → document ∈ documents →
      document.value = .error fault → BrokenYaml text

variable {text : String}

theorem BrokenYaml.readAll_eq (h : BrokenYaml text) :
    ∃ fault, Yaml.Value.readAll text = .error fault := by
  cases h with
  | stream hstream => exact ⟨_, readAll_of_malformed_stream hstream⟩
  | document hstream hmem hdocument => exact readAll_of_malformed_document hstream hmem hdocument

theorem readAll_of_not_broken (h : ¬BrokenYaml text) :
    ∃ documents, Yaml.Value.readAll text = .ok documents := by
  cases hstream : Yaml.Document.readAll text.toList with
  | error fault => exact (h (.stream hstream)).elim
  | ok documents =>
    rw [readAll_eq_mapM hstream, exists_mapM_ok_iff]
    intro document hmem
    cases hvalue : document.value with
    | error fault => exact (h (.document hstream hmem hvalue)).elim
    | ok value => exact ⟨value, rfl⟩

structure Flattens (documents : List Yaml.Value) (definitions : List Definition)
    (before after : Overlay) : Prop where
  keys : ∀ key, key ∈ definitions.map Prod.fst ↔
    ∃ leaf, Yaml.IsLeaf documents leaf ∧ leaf.path = key
  written : ∀ key ∈ definitions.map Prod.fst,
    ∃ leaf, Yaml.IsLast documents key leaf ∧ after[key]? = some leaf.text
  kept : ∀ key ∉ definitions.map Prod.fst, after[key]? = before[key]?

theorem flattens_define (overlay : Overlay) {documents : List Yaml.Value}
    (h : ∀ v ∈ documents, v.keysNamed = true) :
    Flattens documents (documents.flatMap (Yaml.Value.leaves "")) overlay
      (overlay.define (documents.flatMap (Yaml.Value.leaves ""))) where
  keys key := by
    rw [Yaml.definitions_eq h, List.map_map, List.mem_map]
    exact exists_congr fun leaf ↦ and_congr_left' Yaml.mem_leafList
  written key hkey := by
    obtain ⟨d, hmem, rfl⟩ := List.mem_map.mp hkey
    rw [getElem?_define]
    rw [Yaml.definitions_eq h] at hmem ⊢
    cases hlast : ((Yaml.leafList documents).map Yaml.Leaf.definition).reverse.lookup d.1 with
    | none =>
      have hne := List.lookup_eq_none_iff.mp hlast _ (List.mem_reverse.mpr hmem)
      simp at hne
    | some text =>
      obtain ⟨leaf, hleaf, rfl⟩ := Yaml.isLast_of_lookup hlast
      exact ⟨leaf, hleaf, rfl⟩
  kept key hkey := by
    have hnone : (documents.flatMap (Yaml.Value.leaves "")).reverse.lookup key = none := by
      refine List.lookup_eq_none_iff.mpr fun d hd ↦ bne_iff_ne.mpr ?_
      rintro rfl
      exact hkey (List.mem_map_of_mem (List.mem_reverse.mp hd))
    rw [getElem?_define, hnone, Option.none_or]

/-- A text with a fault in any document is noticed and leaves the overlay as it is. The documents of
any other text are flattened into the overlay, if their keys are named. This is what a file with the
text does to the configuration. -/
theorem applyYaml_exact (overlay : Overlay) (text : String) :
    (BrokenYaml text →
      (∃ fault, yamlDefinitions text = .error fault) ∧ overlay.applyYaml text = overlay) ∧
    (¬BrokenYaml text → ∃ documents definitions,
      Yaml.Value.readAll text = .ok documents ∧ yamlDefinitions text = .ok definitions ∧
      ((∀ v ∈ documents, v.keysNamed = true) →
        Flattens documents definitions overlay (overlay.applyYaml text))) ∧
    ∀ (files : FileView) (path : Path), files.isFile path = true → files.read path = .ok text →
      overlay.defineAll [fileDefinitions files path .yaml] = overlay.applyYaml text ∧
      (BrokenYaml text → fileDefinitions files path .yaml = .error (.malformed path)) := by
  refine ⟨fun hbroken ↦ ?_, fun hwhole ↦ ?_, fun files path hfile hread ↦ ⟨?_, fun hbroken ↦ ?_⟩⟩
  · obtain ⟨fault, hfault⟩ := hbroken.readAll_eq
    have hdefinitions : yamlDefinitions text = .error fault := by
      rw [yamlDefinitions, hfault]
      rfl
    refine ⟨⟨fault, hdefinitions⟩, ?_⟩
    rw [applyYaml, hdefinitions]
    rfl
  · obtain ⟨documents, hdocuments⟩ := readAll_of_not_broken hwhole
    have hdefinitions :
        yamlDefinitions text = .ok (documents.flatMap (Yaml.Value.leaves "")) := by
      rw [yamlDefinitions, hdocuments]
      rfl
    refine ⟨documents, _, hdocuments, hdefinitions, fun hnamed ↦ ?_⟩
    rw [applyYaml, hdefinitions]
    exact flattens_define overlay hnamed
  · rw [defineAll, fileDefinitions, hfile, hread, applyYaml, List.flatMap_singleton]
    dsimp only
    rw [textDefinitions]
    cases yamlDefinitions text <;> rfl
  · obtain ⟨fault, hfault⟩ := hbroken.readAll_eq
    exact Layer.read_of_malformed hfile hread hfault

section Collision

/-- Two documents with one key at different depths, and a key that is no scalar. -/
def colliding : String := "a:\n  b: 1\na.b: !t [x, y]\n---\na.b: 2\n? [k]\n: z\n"

def unclosed : String := "a: 1\n---\nb: [unclosed\n"

theorem unclosed_broken : BrokenYaml unclosed := by
  have hfails : (Yaml.Document.readAll unclosed.toList).isOk = false := by decide +kernel
  cases hstream : Yaml.Document.readAll unclosed.toList with
  | error fault => exact .stream hstream
  | ok documents =>
    rw [hstream] at hfails
    cases hfails

theorem colliding_whole : ¬BrokenYaml colliding := by
  intro hbroken
  obtain ⟨fault, hfault⟩ := hbroken.readAll_eq
  have hok : (Yaml.Value.readAll colliding).isOk = true := by decide +kernel
  rw [hfault] at hok
  cases hok

/-- The last document decides, though a key of the first spells the same path, and of the text that
is broken nothing is kept. -/
theorem colliding_flattened :
    let overlay : Overlay := Std.TreeMap.insert ∅ "kept" "yes"
    let files := viewOf [("/m/a.yml", unclosed)]
    ¬BrokenYaml colliding ∧
      (∃ documents definitions, Yaml.Value.readAll colliding = .ok documents ∧
        (∀ v ∈ documents, v.keysNamed = true) ∧
        Flattens documents definitions overlay (overlay.applyYaml colliding) ∧
        ∃ leaf, Yaml.IsLast documents "a.b" leaf ∧ leaf.text = "2") ∧
      BrokenYaml unclosed ∧ overlay.applyYaml unclosed = overlay ∧
      overlay.defineAll [fileDefinitions files ⟨"/m/a.yml"⟩ .yaml] = overlay ∧
      fileDefinitions files ⟨"/m/a.yml"⟩ .yaml = .error (.malformed ⟨"/m/a.yml"⟩) := by
  intro overlay files
  obtain ⟨-, hwhole, -⟩ := applyYaml_exact overlay colliding
  obtain ⟨hbroken, -, hfile⟩ := applyYaml_exact overlay unclosed
  obtain ⟨documents, definitions, hdocuments, hdefinitions, hflattens⟩ := hwhole colliding_whole
  have hnamed : ∀ v ∈ documents, v.keysNamed = true := by
    have hall : (Yaml.Value.readAll colliding).toOption.map (·.all Yaml.Value.keysNamed) =
        some true := by decide +kernel
    rw [hdocuments] at hall
    exact List.all_eq_true.mp (Option.some.inj hall)
  have hkey : "a.b" ∈ definitions.map Prod.fst := by
    have hsome : (yamlDefinitions colliding).toOption.map
        (fun defined ↦ (defined.map Prod.fst).contains "a.b") = some true := by decide +kernel
    rw [hdefinitions] at hsome
    exact List.contains_iff_mem.mp (Option.some.inj hsome)
  obtain ⟨leaf, hlast, hleaf⟩ := (hflattens hnamed).written "a.b" hkey
  have htext : (overlay.applyYaml colliding)["a.b"]? = some "2" := by decide +kernel
  have hunchanged := (hbroken unclosed_broken).2
  obtain ⟨hdefine, hfault⟩ := hfile files ⟨"/m/a.yml"⟩ (by decide +kernel) (by decide +kernel)
  exact ⟨colliding_whole,
    ⟨documents, definitions, hdocuments, hnamed, hflattens hnamed, leaf, hlast,
      Option.some.inj (hleaf.symm.trans htext)⟩,
    unclosed_broken, hunchanged, hdefine.trans hunchanged, hfault unclosed_broken⟩

end Collision

end Overlay

end Reactor
