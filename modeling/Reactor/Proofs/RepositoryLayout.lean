import Reactor.Files.Memory
import Reactor.Proofs.JoinedPaths
import Reactor.Repository

namespace Reactor

def Path.StaysIn (p root : Path) : Prop :=
  ∃ further, p.components = root.components ++ further ∧ .up ∉ further

namespace Path

variable {root : Path} {pieces : List String}

theorem staysIn_descend_iff (h : ∀ piece ∈ pieces, (⟨piece⟩ : Path).isAbsolute = false) :
    (root.descend pieces).StaysIn root ↔ ∀ piece ∈ pieces, .up ∉ steps ⟨piece⟩ := by
  have hsteps : Component.up ∉ pieces.flatMap (fun piece ↦ steps ⟨piece⟩) ↔
      ∀ piece ∈ pieces, .up ∉ steps ⟨piece⟩ := by
    simp only [List.mem_flatMap, not_exists, not_and]
  rw [← hsteps, StaysIn, components_eq, steps_descend h, ← List.append_assoc]
  by_cases hroot : root.text = ""
  · -- Below the empty path the first piece may bring a leading dot, which is no step up.
    have hnone : root.components = [] := by
      obtain ⟨text⟩ := root
      subst hroot
      rfl
    have hempty : root.steps = [] := (List.append_eq_nil_iff.mp (components_eq root ▸ hnone)).2
    simp [hnone, hempty, up_notMem_start]
  · rw [start_descend hroot h, ← components_eq]
    simp

end Path

namespace Repository

open Reactor.Path

/-- Some text between two slashes is a step up. -/
def Climbs (s : String) : Prop := ['.', '.'] ∈ Text.cut '/' s.toList

/-- No part of a coordinate that is joined to the path starts with a slash. -/
def StartsBelow (c : Coordinate) (version : String) : Prop :=
  (∀ segment ∈ Text.cut '.' c.group.toList, segment.head? ≠ some '/') ∧
    c.artifact.toList.head? ≠ some '/' ∧ version.toList.head? ≠ some '/'

def fileName (c : Coordinate) (version : String) : String := c.artifact ++ "-" ++ version ++ ".pom"

instance (s : String) : Decidable (Climbs s) := inferInstanceAs (Decidable (_ ∈ _))

instance (c : Coordinate) (version : String) : Decidable (StartsBelow c version) :=
  inferInstanceAs (Decidable (_ ∧ _))

variable {r : Repository} {c d : Coordinate} {version : String} {p : Path}

theorem layout_eq : layout c version =
    (Text.cut '.' c.group.toList).map String.ofList ++ [c.artifact, version, fileName c version] :=
  rfl

theorem descriptorPath?_eq_some_iff :
    r.descriptorPath? c = some p ↔ ∃ version, c.version = some version ∧ version ≠ "" ∧
      hasPlaceholder version = false ∧ c.group ≠ "" ∧ c.artifact ≠ "" ∧
        p = r.root.descend (layout c version) := by
  rw [descriptorPath?]
  cases c.version with
  | none => simp
  | some version => simp [descend, and_assoc, eq_comm (a := p)]

section Confinement

theorem toList_fileName : (fileName c version).toList =
    c.artifact.toList ++ '-' :: (version.toList ++ '.' :: ['p', 'o', 'm']) := by
  simp [fileName]

theorem forall_mem_layout_iff {P : String → Prop} : (∀ piece ∈ layout c version, P piece) ↔
    (∀ segment ∈ Text.cut '.' c.group.toList, P (String.ofList segment)) ∧ P c.artifact ∧
      P version ∧ P (fileName c version) := by
  simp [layout_eq, or_imp, forall_and]

theorem startsBelow_iff (hartifact : c.artifact ≠ "") :
    StartsBelow c version ↔
      ∀ piece ∈ layout c version, (⟨piece⟩ : Path).isAbsolute = false := by
  have hfile : (fileName c version).toList.head? = c.artifact.toList.head? := by
    rw [toList_fileName, List.head?_append_of_ne_nil _ (by simpa using hartifact)]
  simp only [forall_mem_layout_iff, isAbsolute_eq_false_iff, hfile, StartsBelow,
    String.toList_ofList]
  tauto

theorem not_climbs_fileName (hartifact : ¬ Climbs c.artifact) (hversion : ¬ Climbs version) :
    ¬ Climbs (fileName c version) := by
  intro hup
  rw [Climbs, toList_fileName] at hup
  rcases Text.mem_of_mem_cut_append_cons (by decide) hup with hup | hup | hdash
  · exact hartifact hup
  · rw [Text.cut_append_cons (by decide)] at hup
    have hending : Text.cut '/' ['p', 'o', 'm'] = [['p', 'o', 'm']] := by decide
    rw [hending] at hup
    rcases List.mem_append.mp hup with hup | hlast
    · exact hversion (List.dropLast_subset _ hup)
    · have hlength := congrArg List.length (List.mem_singleton.mp hlast)
      simp at hlength
  · exact absurd hdash (by decide)

theorem forall_notMem_steps_iff :
    (∀ piece ∈ layout c version, .up ∉ steps ⟨piece⟩) ↔
      ¬ Climbs c.artifact ∧ ¬ Climbs version := by
  have hgroup : ∀ segment ∈ Text.cut '.' c.group.toList, .up ∉ steps ⟨String.ofList segment⟩ := by
    intro segment hsegment hup
    rw [up_mem_steps, chars, String.toList_ofList] at hup
    have hdot : '.' ∉ segment := Text.notMem_of_mem_cut hsegment
    exact hdot (Text.mem_of_mem_cut hup List.mem_cons_self)
  simp only [forall_mem_layout_iff, up_mem_steps, chars] at hgroup ⊢
  constructor
  · rintro ⟨-, hartifact, hversion, -⟩
    exact ⟨hartifact, hversion⟩
  · rintro ⟨hartifact, hversion⟩
    exact ⟨hgroup, hartifact, hversion, not_climbs_fileName hartifact hversion⟩

theorem descend_layout_staysIn_iff (hartifact : c.artifact ≠ "") (hbelow : StartsBelow c version)
    (root : Path) :
    (root.descend (layout c version)).StaysIn root ↔ ¬ Climbs c.artifact ∧ ¬ Climbs version := by
  rw [startsBelow_iff hartifact] at hbelow
  rw [staysIn_descend_iff hbelow, forall_notMem_steps_iff]

theorem exists_absolute (hartifact : c.artifact ≠ "") (hbelow : ¬ StartsBelow c version) :
    ∃ p : Path, p.isAbsolute = true ∧ ∀ root : Path, root.descend (layout c version) = p := by
  rw [startsBelow_iff hartifact] at hbelow
  push Not at hbelow
  obtain ⟨piece, hpiece, habsolute⟩ := hbelow
  rw [ne_eq, Bool.not_eq_false] at habsolute
  obtain ⟨before, after, hlayout⟩ := List.append_of_mem hpiece
  refine ⟨(⟨piece⟩ : Path).descend after, isAbsolute_descend habsolute, fun root ↦ ?_⟩
  rw [hlayout, descend_of_absolute before after habsolute]

theorem not_staysIn_of_absolute (hp : p.isAbsolute = true) : ¬ p.StaysIn ⟨"m2"⟩ := by
  rintro ⟨further, hcomponents, -⟩
  have hstart : p.start = [.root] := if_pos hp
  have hroot : components ⟨"m2"⟩ = [.name "m2"] := by decide
  rw [components_eq, hstart, hroot] at hcomponents
  cases hcomponents

theorem staysIn_everywhere_iff (hartifact : c.artifact ≠ "") :
    (∀ root : Path, (root.descend (layout c version)).StaysIn root) ↔
      StartsBelow c version ∧ ¬ Climbs c.artifact ∧ ¬ Climbs version := by
  constructor
  · intro hall
    have hbelow : StartsBelow c version := by
      by_contra hbelow
      obtain ⟨p, hp, hsame⟩ := exists_absolute hartifact hbelow
      have hstays := hall ⟨"m2"⟩
      rw [hsame] at hstays
      exact not_staysIn_of_absolute hp hstays
    exact ⟨hbelow, (descend_layout_staysIn_iff hartifact hbelow ⟨"m2"⟩).mp (hall _)⟩
  · rintro ⟨hbelow, hclimbs⟩ root
    exact (descend_layout_staysIn_iff hartifact hbelow root).mpr hclimbs

theorem load_eq_some (hp : r.descriptorPath? c = some p) {d : Descriptor}
    (hd : r.load c = some d) : r.files.isFile p = true ∧ Descriptor.read r.files p = .ok d := by
  rw [load, read?, hp, Option.filter_some] at hd
  cases hfile : r.files.isFile p with
  | false => simp [hfile] at hd
  | true =>
    refine ⟨rfl, ?_⟩
    cases hread : Descriptor.read r.files p <;> simp_all [Except.toOption]

/-- A coordinate is stored below every root just if none of its parts starts with a slash and
neither the artifact nor the version holds a step up. A part with a leading slash makes the path the
same for all roots. Nothing but the file at the path is loaded. -/
theorem descriptorPath?_staysIn_exact (hversion : c.version = some version)
    (hp : r.descriptorPath? c = some p) :
    ((∀ other q, descriptorPath? other c = some q → q.StaysIn other.root) ↔
      StartsBelow c version ∧ ¬ Climbs c.artifact ∧ ¬ Climbs version) ∧
    (StartsBelow c version →
      (p.StaysIn r.root ↔ ¬ Climbs c.artifact ∧ ¬ Climbs version)) ∧
    (¬ StartsBelow c version →
      p.isAbsolute = true ∧ ∀ other, descriptorPath? other c = some p) ∧
    (∀ d, r.load c = some d → r.files.isFile p = true ∧ Descriptor.read r.files p = .ok d) := by
  obtain ⟨v, hv, hnonempty, hplain, hgroup, hartifact, hpath⟩ := descriptorPath?_eq_some_iff.mp hp
  obtain rfl : version = v := Option.some.inj (hversion.symm.trans hv)
  have hother (other : Repository) :
      other.descriptorPath? c = some (other.root.descend (layout c version)) :=
    descriptorPath?_eq_some_iff.mpr ⟨version, hv, hnonempty, hplain, hgroup, hartifact, rfl⟩
  refine ⟨?_, ?_, ?_, fun d ↦ load_eq_some hp⟩
  · rw [← staysIn_everywhere_iff hartifact]
    constructor
    · intro hall root
      exact hall ⟨root, r.files⟩ _ (hother _)
    · intro hall other q hq
      obtain rfl : _ = q := Option.some.inj ((hother other).symm.trans hq)
      exact hall other.root
  · intro hbelow
    rw [hpath]
    exact descend_layout_staysIn_iff hartifact hbelow r.root
  · intro hbelow
    obtain ⟨q, hq, hsame⟩ := exists_absolute hartifact hbelow
    obtain rfl : p = q := hpath.trans (hsame r.root)
    refine ⟨hq, fun other ↦ ?_⟩
    rw [hother, hsame]

section Stray

def bomCoordinate : Coordinate := ⟨"org.acme", "bom", some "1.0"⟩

def strayCoordinate : Coordinate := ⟨"g", "/etc/x", some "1"⟩

def strayRepository : Repository :=
  ⟨⟨"/m2"⟩, ((Memory.ofRoot ⟨"/m2"⟩).addFile ⟨"/etc/x-1.pom"⟩ "<project/>").view⟩

theorem bom_staysIn :
    bomCoordinate.version = some "1.0" ∧
      ∃ p, strayRepository.descriptorPath? bomCoordinate = some p ∧
        StartsBelow bomCoordinate "1.0" ∧ p.StaysIn strayRepository.root := by
  have hp : strayRepository.descriptorPath? bomCoordinate =
      some ⟨"/m2/org/acme/bom/1.0/bom-1.0.pom"⟩ := by decide +kernel
  have hbelow : StartsBelow bomCoordinate "1.0" := by decide
  obtain ⟨-, hinside, -⟩ := descriptorPath?_staysIn_exact rfl hp
  exact ⟨rfl, _, hp, hbelow, (hinside hbelow).mpr (by decide)⟩

/-- The descriptor of a stray coordinate is loaded from outside the root. -/
theorem stray_loaded :
    ∃ p, strayRepository.descriptorPath? strayCoordinate = some p ∧
      ¬ p.StaysIn strayRepository.root ∧ p = ⟨"/etc/x-1.pom"⟩ ∧
      (strayRepository.load strayCoordinate).isSome = true := by
  refine ⟨⟨"/etc/x-1.pom"⟩, by decide +kernel, ?_, rfl, by decide +kernel⟩
  rintro ⟨further, hfurther, -⟩
  have hprefix : strayRepository.root.components <+: components ⟨"/etc/x-1.pom"⟩ :=
    ⟨further, hfurther.symm⟩
  exact absurd hprefix (by decide)

end Stray

end Confinement

section Regular

/-- A coordinate of which each part is a name of its own. -/
structure IsRegular (c : Coordinate) (version : String) : Prop where
  version_eq : c.version = some version
  literal : hasPlaceholder version = false
  slash_notMem : '/' ∉ c.group.toList
  nil_notMem : [] ∉ Text.cut '.' c.group.toList
  artifact : (Component.name c.artifact).IsProper
  version : (Component.name version).IsProper

def place (root : Path) (c : Coordinate) (version : String) : List Component :=
  root.components ++ ((Text.cut '.' c.group.toList).map String.ofList ++
    [c.artifact, version, c.artifact ++ "-" ++ version ++ ".pom"]).map .name

theorem IsRegular.isProper_segment (h : IsRegular c version) {segment : List Char}
    (hsegment : segment ∈ Text.cut '.' c.group.toList) :
    (Component.name (String.ofList segment)).IsProper := by
  have hdot : '.' ∉ segment := Text.notMem_of_mem_cut hsegment
  have hslash : '/' ∉ segment := fun hmem ↦ h.slash_notMem (Text.mem_of_mem_cut hsegment hmem)
  have hempty : segment ≠ [] := fun heq ↦ h.nil_notMem (heq ▸ hsegment)
  obtain ⟨first, hfirst⟩ := List.exists_mem_of_ne_nil segment hempty
  have hne : first ≠ '.' := fun heq ↦ hdot (heq ▸ hfirst)
  exact Component.isProper_of_mem (by simpa using hslash) (by simpa using hfirst) hne

theorem IsRegular.isProper_fileName (h : IsRegular c version) :
    (Component.name (fileName c version)).IsProper := by
  have hdash : '-' ∈ (fileName c version).toList := by simp [fileName]
  have hartifact : '/' ∉ c.artifact.toList := h.artifact.notMem_text
  have hversion : '/' ∉ version.toList := h.version.notMem_text
  have hslash : '/' ∉ (fileName c version).toList := by simp [fileName, hartifact, hversion]
  exact Component.isProper_of_mem hslash hdash (by decide)

theorem IsRegular.forall_isProper (h : IsRegular c version) :
    ∀ piece ∈ layout c version, (Component.name piece).IsProper :=
  forall_mem_layout_iff.mpr
    ⟨fun _ hsegment ↦ h.isProper_segment hsegment, h.artifact, h.version, h.isProper_fileName⟩

theorem IsRegular.exists_path (h : IsRegular c version) (r : Repository) :
    ∃ p, r.descriptorPath? c = some p ∧ p.components = place r.root c version := by
  have hgroup : c.group ≠ "" := by
    intro heq
    exact h.nil_notMem (by simp [heq, Text.cut])
  refine ⟨_, descriptorPath?_eq_some_iff.mpr ⟨version, h.version_eq, h.version.1, h.literal, hgroup,
    h.artifact.1, rfl⟩, ?_⟩
  rw [components_descend _ h.forall_isProper]
  rfl

theorem eq_of_place_eq {root : Path} {other : String} (hversion : c.version = some version)
    (hother : d.version = some other) (h : place root c version = place root d other) : c = d := by
  obtain ⟨hsegments, hlast⟩ := List.append_inj' (List.map_injective_iff.mpr
    (fun _ _ ↦ Component.name.inj) (List.append_cancel_left h)) rfl
  obtain ⟨hartifact, hrest⟩ := List.cons.inj hlast
  obtain ⟨hsame, -⟩ := List.cons.inj hrest
  have hcut : Text.cut '.' c.group.toList = Text.cut '.' d.group.toList :=
    List.map_injective_iff.mpr (fun _ _ ↦ String.ofList_inj.mp) hsegments
  have hgroup : c.group = d.group := by
    rw [← String.toList_inj, ← Text.intercalate_cut c.group.toList, hcut, Text.intercalate_cut]
  obtain ⟨group, artifact, v⟩ := c
  obtain ⟨group', artifact', v'⟩ := d
  simp_all

/-- Each regular coordinate has a path, which leads to its place, and no other one has that path. -/
theorem descriptorPath?_injective (r : Repository) {other : String} (hc : IsRegular c version)
    (hd : IsRegular d other) :
    ∃ p q, r.descriptorPath? c = some p ∧ r.descriptorPath? d = some q ∧
      p.components = place r.root c version ∧ q.components = place r.root d other ∧
      (p.Same q ↔ c = d) := by
  obtain ⟨p, hp, hplace⟩ := hc.exists_path r
  obtain ⟨q, hq, hplace'⟩ := hd.exists_path r
  refine ⟨p, q, hp, hq, hplace, hplace', ?_, ?_⟩
  · intro hsame
    rw [Same, hplace, hplace'] at hsame
    exact eq_of_place_eq hc.version_eq hd.version_eq hsame
  · rintro rfl
    rw [hp] at hq
    exact congrArg components (Option.some.inj hq)

def dashedVersion : Coordinate := ⟨"a.b", "c", some "1-2"⟩

def dashedArtifact : Coordinate := ⟨"a.b", "c-1", some "2"⟩

theorem dashedVersion_regular : IsRegular dashedVersion "1-2" :=
  ⟨rfl, by decide +kernel, by decide, by decide, by decide, by decide⟩

theorem dashedArtifact_regular : IsRegular dashedArtifact "2" :=
  ⟨rfl, by decide +kernel, by decide, by decide, by decide, by decide⟩

theorem dashed_apart :
    IsRegular dashedVersion "1-2" ∧ IsRegular dashedArtifact "2" ∧
      ∃ p q, strayRepository.descriptorPath? dashedVersion = some p ∧
        strayRepository.descriptorPath? dashedArtifact = some q ∧
        p.components.getLast? = some (.name "c-1-2.pom") ∧
        q.components.getLast? = some (.name "c-1-2.pom") ∧ ¬ p.Same q := by
  obtain ⟨p, q, hp, hq, hplace, hplace', hsame⟩ :=
    descriptorPath?_injective strayRepository dashedVersion_regular dashedArtifact_regular
  refine ⟨dashedVersion_regular, dashedArtifact_regular, p, q, hp, hq, ?_, ?_, ?_⟩
  · rw [hplace]
    decide
  · rw [hplace']
    decide
  · rw [hsame]
    decide

end Regular

end Repository

end Reactor
