import Reactor.Proofs.JoinedPaths
import Reactor.Proofs.Location

namespace Reactor

namespace Course

variable (r : Course)

theorem reduced_reduced : r.reduced.reduced = r.reduced := by simp [reduced]

theorem step_reduced (c : Component) : (r.reduced.step c).reduced = (r.step c).reduced := by
  cases c with
  | root => rfl
  | here => exact r.reduced_reduced
  | name s => simp [step, reduced]
  | up =>
    by_cases hnames : r.names = []
    · simp [step, reduced, hnames]
    · simp [step, reduced, hnames]

theorem foldl_step_reduced (cs : List Component) :
    (cs.foldl step r.reduced).reduced = (cs.foldl step r).reduced := by
  induction cs generalizing r with
  | nil => exact r.reduced_reduced
  | cons c cs ih => rw [List.foldl_cons, List.foldl_cons, ← ih, step_reduced, ih]

def folded : Course := { r with names := Path.foldLast r.names }

theorem foldLast_foldLast (names : List String) :
    Path.foldLast (Path.foldLast names) = Path.foldLast names := by
  rcases List.eq_nil_or_concat names with rfl | ⟨names, s, rfl⟩
  · rfl
  · have hown : isDescriptorFileName descriptorFileName = true := by decide
    by_cases hs : isDescriptorFileName s = true <;> simp [Path.foldLast, hs, hown]

theorem reduced_folded : r.folded.reduced = r.reduced.folded := rfl

theorem folded_folded : r.folded.folded = r.folded := by
  simp only [folded, foldLast_foldLast]

end Course

namespace Path

variable (p : Path) {q : Path}

theorem foldl_step_start (hp : p.isAbsolute = false) (r : Course) :
    p.start.foldl Course.step r = r := by
  rw [start, hp]
  split
  · contradiction
  · split <;> rfl

theorem course_join (hq : q.isAbsolute = false) :
    (p.join q).course = q.steps.foldl Course.step p.course := by
  by_cases hp : p.text = ""
  · have hnone : p.components = [] := by
      obtain ⟨text⟩ := p
      subst hp
      rfl
    rw [join_of_empty p hp hq, course, course, hnone, components_eq, List.foldl_append,
      foldl_step_start q hq, List.foldl_nil]
  · rw [course, components_join hp hq, List.foldl_append, course]

theorem reduced_course_join {p p' : Path} (h : p.course.reduced = p'.course.reduced) (q : Path) :
    (p.join q).course.reduced = (p'.join q).course.reduced := by
  cases hq : q.isAbsolute with
  | true => rw [join_of_absolute p hq, join_of_absolute p' hq]
  | false =>
    rw [course_join p hq, course_join p' hq, ← Course.foldl_step_reduced, h,
      Course.foldl_step_reduced]

theorem reduced_course_normalize : p.normalize.course.reduced = p.course.reduced := by
  rw [course_normalize, Course.reduced_reduced]

section Key

theorem mem_foldLast {names : List String} {s : String} (h : s ∈ foldLast names) :
    s ∈ names ∨ s = descriptorFileName := by
  rw [foldLast] at h
  split at h
  · cases h
  · next last hlast =>
    rcases List.mem_append.mp h with h | h
    · exact .inl (List.dropLast_subset _ h)
    · rw [List.mem_singleton] at h
      split at h
      · exact .inr h
      · exact .inl (h ▸ List.mem_of_getLast? hlast)

theorem isProper_of_mem_foldLast {s : String} (h : s ∈ foldLast p.course.names) :
    (Component.name s).IsProper := by
  rcases mem_foldLast h with h | rfl
  · exact p.isProper_of_mem_names h
  · decide

theorem descriptorKey_eq_folded : p.descriptorKey = p.course.folded.components :=
  descriptorKey_eq p

theorem descriptorKey_congr {p q : Path} (h : p.course.reduced = q.course.reduced) :
    p.descriptorKey = q.descriptorKey := by
  rw [descriptorKey_eq_folded, descriptorKey_eq_folded, Course.components_inj,
    Course.reduced_folded, Course.reduced_folded, h]

theorem course_descriptorKey :
    (ofComponents p.descriptorKey).course = p.course.folded.reduced := by
  have hproper : ∀ s ∈ p.course.folded.names, (Component.name s).IsProper :=
    fun _ hs ↦ p.isProper_of_mem_foldLast hs
  rw [course, descriptorKey_eq_folded, components_ofComponents_course hproper,
    Course.foldl_step_components]

theorem descriptorKey_descriptorKey :
    (ofComponents p.descriptorKey).descriptorKey = p.descriptorKey := by
  rw [descriptorKey_eq_folded, course_descriptorKey, ← Course.reduced_folded,
    Course.components_reduced, Course.folded_folded, ← descriptorKey_eq_folded]

theorem moduleDescriptorKey_normalize (entry : String) :
    moduleDescriptorKey p.normalize entry = moduleDescriptorKey p entry := by
  have hfile := reduced_course_join p.reduced_course_normalize ⟨Text.trim entry⟩
  rw [moduleDescriptorKey_eq, moduleDescriptorKey_eq]
  apply descriptorKey_congr
  rw [ofModule, ofModule]
  split
  · exact hfile
  · exact reduced_course_join hfile _

end Key

/-- Normalization may come before a join as well as after it, and what it leaves is left by it: at
most one `..` behind the root or at the start, and names. A key read as a path is its own key, and a
normalized directory gives each module entry the same key. -/
theorem normalize_join (a b : Path) :
    (a.join b).normalize = (a.normalize.join b).normalize ∧
      a.normalize.normalize = a.normalize ∧
      (∃ (base : List Component) (names : List String), base ∈ [[], [.up], [.root], [.root, .up]] ∧
        a.normalize.components = base ++ names.map .name) ∧
      (ofComponents a.descriptorKey).descriptorKey = a.descriptorKey ∧
      ∀ entry, moduleDescriptorKey a.normalize entry = moduleDescriptorKey a entry := by
  refine ⟨?_, ?_, ?_, a.descriptorKey_descriptorKey, a.moduleDescriptorKey_normalize⟩
  · rw [normalize_eq_iff, reduced_course_join a.reduced_course_normalize]
  · rw [normalize_eq_iff, reduced_course_normalize]
  · refine ⟨a.course.base, a.course.names, ?_, a.components_normalize⟩
    by_cases hsurplus : a.course.surplus % 2 = 1 <;> cases habsolute : a.course.isAbsolute <;>
      simp [Course.base, hsurplus, habsolute]

/-- The step up at the end of the one path takes back what the other begins with. -/
example : (join ⟨"/r/./a/.."⟩ ⟨"../B/POM.xml"⟩).normalize = ⟨"/B/POM.xml"⟩ ∧
    moduleDescriptorKey ⟨"/r/./a/.."⟩ " ../B/POM.XML " = [.root, .name "B", .name "pom.xml"] := by
  decide +kernel

end Path

end Reactor
