import Mathlib.Data.List.Basic
import Reactor.Overlay
import Reactor.Proofs.PropertyLayers

namespace Reactor.Overlay

structure Layer where
  path : Path
  format : Format
  deriving DecidableEq

namespace Layer

variable (files : FileView) (layer : Layer)

def read : Except Fault (List Definition) := fileDefinitions files layer.path layer.format

def definitions : List Definition := ((layer.read files).toOption).getD []

def value? (key : String) : Option String := (layer.definitions files).reverse.lookup key

/-- There is no such file, or it has no text, or the text is not what the format asks for. One bad
document spoils all others of its file. -/
inductive Unusable : Layer → Prop
  | missing {path : Path} {format : Format} : files.isFile path = false → Unusable ⟨path, format⟩
  | unreadable {path : Path} {format : Format} {fault : ReadFault} :
      files.read path = .error fault → Unusable ⟨path, format⟩
  | malformedStream {path : Path} {text : String} {fault : Yaml.Malformed} :
      files.read path = .ok text → Yaml.Document.readAll text.toList = .error fault →
      Unusable ⟨path, .yaml⟩
  | malformedDocument {path : Path} {text : String} {documents : List Yaml.Document}
      {document : Yaml.Document} {fault : Yaml.Malformed} :
      files.read path = .ok text → Yaml.Document.readAll text.toList = .ok documents →
      document ∈ documents → document.value = .error fault → Unusable ⟨path, .yaml⟩

end Layer

def stemLayers (directory : Path) (stem : String) : List Layer :=
  let resources := directory.join ⟨"src/main/resources"⟩
  [⟨resources.join ⟨stem ++ ".properties"⟩, .properties⟩,
    ⟨resources.join ⟨stem ++ ".yml"⟩, .yaml⟩,
    ⟨resources.join ⟨stem ++ ".yaml"⟩, .yaml⟩]

/-- What the last file that defines a key gives it. -/
def lastValue? (files : FileView) (layers : List Layer) (key : String) : Option String :=
  layers.reverse.findSome? (·.value? files key)

def baseLayers (directory : Path) : List Layer := stemLayers directory "application"

def profileNames (names : String) : List String :=
  (Text.cut ',' names.toList).filterMap fun cs ↦ Text.trimmed? (String.ofList cs)

def namedProfiles (files : FileView) (directory : Path) : List String :=
  ((lastValue? files (baseLayers directory) "spring.profiles.active").map profileNames).getD []

def layers (files : FileView) (directory : Path) : List Layer :=
  baseLayers directory ++
    (namedProfiles files directory).flatMap fun p ↦ stemLayers directory s!"application-{p}"

theorem getElem?_define (overlay : Overlay) (definitions : List Definition) (key : String) :
    (overlay.define definitions)[key]? = (definitions.reverse.lookup key).or overlay[key]? :=
  Properties.getElem?_foldl_insert definitions overlay key

theorem define_append (overlay : Overlay) (definitions later : List Definition) :
    overlay.define (definitions ++ later) = (overlay.define definitions).define later :=
  List.foldl_append

theorem lastValue?_cons (files : FileView) (layer : Layer) (rest : List Layer) (key : String) :
    lastValue? files (layer :: rest) key =
      (lastValue? files rest key).or (layer.value? files key) := by
  rw [lastValue?, List.reverse_cons, List.findSome?_append]
  simp [lastValue?]

theorem getElem?_define_flatMap (overlay : Overlay) (files : FileView) (layers : List Layer)
    (key : String) :
    (overlay.define (layers.flatMap (·.definitions files)))[key]? =
      (lastValue? files layers key).or overlay[key]? := by
  induction layers generalizing overlay with
  | nil => rfl
  | cons layer rest ih =>
    have hstep : (overlay.define (layer.definitions files))[key]? =
        (layer.value? files key).or overlay[key]? := getElem?_define ..
    rw [List.flatMap_cons, define_append, ih, hstep, lastValue?_cons, Option.or_assoc]

theorem stemDefinitions_eq (files : FileView) (directory : Path) (stem : String) :
    stemDefinitions files directory stem = (stemLayers directory stem).map (·.read files) := by
  have htext (s : String) : toString s = s := rfl
  simp [stemDefinitions, stemLayers, extensions, Layer.read, resourcesDirectory, htext,
    String.append_assoc]

theorem defineAll_map_read (overlay : Overlay) (files : FileView) (layers : List Layer) :
    overlay.defineAll (layers.map (·.read files)) =
      overlay.define (layers.flatMap (·.definitions files)) := by
  rw [defineAll, List.flatMap_map]
  rfl

theorem activeProfiles_eq (overlay : Overlay) :
    activeProfiles overlay =
      ((overlay["spring.profiles.active"]?).map profileNames).getD [] := by
  rw [activeProfiles, activeProfilesKey]
  cases overlay["spring.profiles.active"]? <;> rfl

theorem load_eq (files : FileView) (directory : Path) :
    load files directory =
      (define ∅ ((layers files directory).flatMap (·.definitions files)),
        faults ((layers files directory).map (·.read files))) := by
  have hprofiles :
      activeProfiles (define ∅ ((baseLayers directory).flatMap (·.definitions files))) =
        namedProfiles files directory := by
    rw [activeProfiles_eq, getElem?_define_flatMap, Std.TreeMap.getElem?_emptyc, Option.or_none]
    rfl
  rw [load, stemDefinitions_eq, ← baseLayers]
  simp only [stemDefinitions_eq, defineAll_map_read, hprofiles, ← List.map_flatMap,
    ← List.map_append, ← define_append, ← List.flatMap_append]
  rfl

section Unusable

theorem exists_mapM_ok_iff {α β ε : Type} {f : α → Except ε β} {xs : List α} :
    (∃ ys, xs.mapM f = .ok ys) ↔ ∀ x ∈ xs, ∃ y, f x = .ok y := by
  induction xs with
  | nil => exact ⟨fun _ ↦ List.forall_mem_nil _, fun _ ↦ ⟨[], rfl⟩⟩
  | cons x rest ih =>
    rw [List.forall_mem_cons, ← ih, List.mapM_cons]
    cases f x with
    | error e => simp [Bind.bind, Except.bind]
    | ok y =>
      cases rest.mapM f with
      | error e => simp [Bind.bind, Except.bind]
      | ok ys => exact ⟨fun _ ↦ ⟨⟨y, rfl⟩, ys, rfl⟩, fun _ ↦ ⟨y :: ys, rfl⟩⟩

variable {files : FileView} {path : Path} {text : String}

theorem readAll_of_malformed_stream {fault : Yaml.Malformed}
    (h : Yaml.Document.readAll text.toList = .error fault) :
    Yaml.Value.readAll text = .error fault := by
  rw [Yaml.Value.readAll, h]
  rfl

theorem readAll_eq_mapM {documents : List Yaml.Document}
    (h : Yaml.Document.readAll text.toList = .ok documents) :
    Yaml.Value.readAll text = documents.mapM Yaml.Document.value := by
  rw [Yaml.Value.readAll, h]
  rfl

theorem readAll_of_malformed_document {documents : List Yaml.Document} {document : Yaml.Document}
    {fault : Yaml.Malformed} (h : Yaml.Document.readAll text.toList = .ok documents)
    (hmem : document ∈ documents) (hdocument : document.value = .error fault) :
    ∃ fault', Yaml.Value.readAll text = .error fault' := by
  rw [readAll_eq_mapM h]
  cases hvalues : documents.mapM Yaml.Document.value with
  | error fault' => exact ⟨fault', rfl⟩
  | ok values =>
    obtain ⟨value, hvalue⟩ := exists_mapM_ok_iff.mp ⟨values, hvalues⟩ document hmem
    rw [hdocument] at hvalue
    cases hvalue

theorem Layer.read_of_malformed {fault : Yaml.Malformed} (hfile : files.isFile path = true)
    (hread : files.read path = .ok text) (h : Yaml.Value.readAll text = .error fault) :
    Layer.read files ⟨path, .yaml⟩ = .error (.malformed path) := by
  rw [read, fileDefinitions, hfile, hread]
  dsimp only
  rw [textDefinitions, yamlDefinitions, h]
  rfl

theorem Layer.read_of_unusable {layer : Layer} (h : layer.Unusable files)
    (hfile : files.isFile layer.path = true) : ∃ fault, layer.read files = .error fault := by
  cases h with
  | missing hmissing =>
    rw [hmissing] at hfile
    cases hfile
  | @unreadable path format fault hread =>
    refine ⟨.unreadable path fault, ?_⟩
    rw [read, fileDefinitions, hfile, hread]
    rfl
  | malformedStream hread hstream =>
    exact ⟨_, read_of_malformed hfile hread (readAll_of_malformed_stream hstream)⟩
  | malformedDocument hread hstream hmem hdocument =>
    obtain ⟨fault, hfault⟩ := readAll_of_malformed_document hstream hmem hdocument
    exact ⟨_, read_of_malformed hfile hread hfault⟩

theorem Layer.value?_of_unusable {layer : Layer} (h : layer.Unusable files) (key : String) :
    layer.value? files key = none := by
  have hnone : layer.definitions files = [] := by
    cases hfile : files.isFile layer.path with
    | false =>
      rw [definitions, read, fileDefinitions, hfile]
      rfl
    | true =>
      obtain ⟨fault, hfault⟩ := read_of_unusable h hfile
      rw [definitions, hfault]
      rfl
  rw [value?, hnone]
  rfl

end Unusable

/-- Two views show the same at the places of the layers. -/
def SameOn (layers : List Layer) (files files' : FileView) : Prop :=
  ∀ layer ∈ layers, files'.isFile layer.path = files.isFile layer.path ∧
    files'.read layer.path = files.read layer.path

section Agreement

variable {files files' : FileView} {layers : List Layer}

theorem SameOn.read_eq (h : SameOn layers files files') {layer : Layer} (hl : layer ∈ layers) :
    layer.read files' = layer.read files := by
  obtain ⟨hfile, hread⟩ := h layer hl
  rw [Layer.read, Layer.read, fileDefinitions, fileDefinitions, hfile, hread]

theorem SameOn.definitions_eq (h : SameOn layers files files') {layer : Layer}
    (hl : layer ∈ layers) : layer.definitions files' = layer.definitions files := by
  rw [Layer.definitions, Layer.definitions, h.read_eq hl]

theorem SameOn.lastValue?_eq (h : SameOn layers files files') (key : String) :
    lastValue? files' layers key = lastValue? files layers key := by
  induction layers with
  | nil => rfl
  | cons layer rest ih =>
    have hvalue : layer.value? files' key = layer.value? files key := by
      rw [Layer.value?, Layer.value?, h.definitions_eq List.mem_cons_self]
    have hrest : SameOn rest files files' := fun l hl ↦ h l (List.mem_cons_of_mem layer hl)
    rw [lastValue?_cons, lastValue?_cons, hvalue, ih hrest]

theorem SameOn.layers_eq {directory : Path} (h : SameOn (baseLayers directory) files files') :
    Overlay.layers files' directory = Overlay.layers files directory := by
  rw [Overlay.layers, Overlay.layers, namedProfiles, namedProfiles, h.lastValue?_eq]

end Agreement

/-- Each key has the value that the last file gives it, and unusable files give none. The base files
alone settle which files are looked at, and these alone what is loaded. -/
theorem load_last_layer (files : FileView) (directory : Path) :
    (∀ key, (load files directory).1[key]? = lastValue? files (layers files directory) key) ∧
      (∀ layer : Layer, layer.Unusable files → ∀ key, layer.value? files key = none) ∧
      (∀ files', SameOn (baseLayers directory) files files' →
        layers files' directory = layers files directory) ∧
      ∀ files', SameOn (layers files directory) files files' →
        load files' directory = load files directory := by
  refine ⟨?_, fun layer h ↦ Layer.value?_of_unusable h, fun files' h ↦ h.layers_eq, ?_⟩
  · intro key
    rw [load_eq, getElem?_define_flatMap, Std.TreeMap.getElem?_emptyc, Option.or_none]
  · intro files' hsame
    have hbase : SameOn (baseLayers directory) files files' :=
      fun layer hl ↦ hsame layer (List.mem_append_left _ hl)
    have hdefinitions : ∀ layer ∈ layers files directory,
        layer.definitions files' = layer.definitions files := fun _ hl ↦ hsame.definitions_eq hl
    have hread : ∀ layer ∈ layers files directory, layer.read files' = layer.read files :=
      fun _ hl ↦ hsame.read_eq hl
    rw [load_eq, load_eq, hbase.layers_eq, List.flatMap_congr hdefinitions,
      List.map_congr_left hread]

section Cascade

def viewOf (texts : List (String × String)) : FileView where
  exists? p := (texts.lookup p.text).isSome
  isDirectory _ := false
  isFile p := (texts.lookup p.text).isSome
  read p := (texts.lookup p.text).elim (.error (.notFound p)) .ok
  list p := .error (.notFound p)

theorem viewOf_cons_of_ne {path : Path} {added : String × String} (h : path.text ≠ added.1)
    (texts : List (String × String)) :
    (viewOf (added :: texts)).isFile path = (viewOf texts).isFile path ∧
      (viewOf (added :: texts)).read path = (viewOf texts).read path := by
  have hlookup : (added :: texts).lookup path.text = texts.lookup path.text := by
    rw [List.lookup_cons, beq_false_of_ne h]
  dsimp only [viewOf]
  rw [hlookup]
  exact ⟨rfl, rfl⟩

def cascade : List (String × String) :=
  [("/m/src/main/resources/application.properties", "spring.profiles.active = dev\nname = base"),
    ("/m/src/main/resources/application.yml", "name: yml\n---\nname: ["),
    ("/m/src/main/resources/application-dev.properties",
      "name = dev\nspring.profiles.active = extra")]

def cascadeExtra : String × String :=
  ("/m/src/main/resources/application-extra.properties", "name = extra")

def cascadeBroken : Layer := ⟨⟨"/m/src/main/resources/application.yml"⟩, .yaml⟩

theorem cascadeBroken_unusable : cascadeBroken.Unusable (viewOf cascade) := by
  have hread : (viewOf cascade).read cascadeBroken.path = .ok "name: yml\n---\nname: [" := by
    decide +kernel
  have hfails : (Yaml.Document.readAll "name: yml\n---\nname: [".toList).isOk = false := by
    decide +kernel
  cases hstream : Yaml.Document.readAll "name: yml\n---\nname: [".toList with
  | error fault => exact .malformedStream hread hstream
  | ok documents =>
    rw [hstream] at hfails
    cases hfails

/-- The broken file does not count, and the file of the profile that only a profile file names is
not looked at. -/
theorem cascade_settled :
    (load (viewOf cascade) ⟨"/m"⟩).1["name"]? = some "dev" ∧
      cascadeBroken.Unusable (viewOf cascade) ∧
      cascadeBroken.value? (viewOf cascade) "name" = none ∧
      SameOn (layers (viewOf cascade) ⟨"/m"⟩) (viewOf cascade)
        (viewOf (cascadeExtra :: cascade)) ∧
      layers (viewOf (cascadeExtra :: cascade)) ⟨"/m"⟩ = layers (viewOf cascade) ⟨"/m"⟩ ∧
      load (viewOf (cascadeExtra :: cascade)) ⟨"/m"⟩ = load (viewOf cascade) ⟨"/m"⟩ := by
  obtain ⟨hvalue, hunusable, hlayers, hload⟩ := load_last_layer (viewOf cascade) ⟨"/m"⟩
  have hothers : ∀ layer ∈ layers (viewOf cascade) ⟨"/m"⟩,
      layer.path.text ≠ cascadeExtra.1 := by decide +kernel
  have hsame : SameOn (layers (viewOf cascade) ⟨"/m"⟩) (viewOf cascade)
      (viewOf (cascadeExtra :: cascade)) :=
    fun layer hl ↦ viewOf_cons_of_ne (hothers layer hl) cascade
  have hbase : SameOn (baseLayers ⟨"/m"⟩) (viewOf cascade) (viewOf (cascadeExtra :: cascade)) :=
    fun layer hl ↦ hsame layer (List.mem_append_left _ hl)
  refine ⟨?_, cascadeBroken_unusable, hunusable _ cascadeBroken_unusable "name", hsame,
    hlayers _ hbase, hload _ hsame⟩
  rw [hvalue]
  decide +kernel

end Cascade

end Reactor.Overlay
