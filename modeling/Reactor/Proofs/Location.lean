import Reactor.Proofs.Components

namespace Reactor

/-- A place as a path describes it: from the root or from where the reader stands, some levels up
and then down along names. -/
structure Location where
  isAbsolute : Bool
  climbs : Nat
  names : List String
  deriving DecidableEq

/-- A path read step by step. A `..` takes back the last name; `surplus` counts those that find
none. -/
structure Course where
  isAbsolute : Bool
  surplus : Nat
  names : List String
  deriving DecidableEq

namespace Course

def start : Course := ⟨false, 0, []⟩

def step (r : Course) : Component → Course
  | .root => ⟨true, 0, []⟩
  | .here => r
  | .up =>
    if r.names = [] then { r with surplus := r.surplus + 1 }
    else { r with names := r.names.dropLast }
  | .name s => { r with names := r.names ++ [s] }

def location (r : Course) : Location :=
  ⟨r.isAbsolute, if r.isAbsolute then 0 else r.surplus, r.names⟩

def base (r : Course) : List Component :=
  (if r.isAbsolute then [.root] else []) ++ if r.surplus % 2 = 1 then [.up] else []

def components (r : Course) : List Component := r.base ++ r.names.map .name

/-- Without the pairs of `..` that take each other away. -/
def reduced (r : Course) : Course := { r with surplus := r.surplus % 2 }

theorem location_reduced (r : Course) :
    r.reduced.location = { r.location with climbs := r.location.climbs % 2 } := by
  obtain ⟨isAbsolute, surplus, names⟩ := r
  cases isAbsolute <;> simp [location, reduced]

theorem climbs_of_relative {r : Course} (h : r.location.isAbsolute = false) :
    r.location.climbs = r.surplus :=
  if_neg (by rwa [Bool.not_eq_true])

section Stack

variable (r : Course)

theorem push_base_up :
    Path.push r.base.reverse .up = (base { r with surplus := r.surplus + 1 }).reverse := by
  rcases Nat.mod_two_eq_zero_or_one r.surplus with h | h
  · have hnext : (r.surplus + 1) % 2 = 1 := by omega
    cases ha : r.isAbsolute <;> simp [base, Path.push, h, hnext, ha]
  · have hnext : (r.surplus + 1) % 2 = 0 := by omega
    cases ha : r.isAbsolute <;> simp [base, Path.push, h, hnext, ha]

/-- The stack of normalization is the course so far, last step first. -/
theorem push_components (c : Component) :
    Path.push r.components.reverse c = (r.step c).components.reverse := by
  cases c with
  | root => rfl
  | here => rfl
  | name s =>
    have hbase : base { r with names := r.names ++ [s] } = r.base := rfl
    simp [Path.push, step, components, hbase]
  | up =>
    rcases List.eq_nil_or_concat r.names with hnames | ⟨names, s, hnames⟩
    · have hstack : r.components = r.base := by simp [components, hnames]
      rw [hstack, push_base_up, step, if_pos hnames]
      simp [components, hnames]
    · rw [List.concat_eq_append] at hnames
      have hbase : base { r with names := names } = r.base := rfl
      simp [Path.push, step, components, hnames, hbase]

theorem foldl_push (cs : List Component) :
    cs.foldl Path.push r.components.reverse = (cs.foldl step r).components.reverse := by
  induction cs generalizing r with
  | nil => rfl
  | cons c cs ih => rw [List.foldl_cons, push_components, ih, List.foldl_cons]

end Stack

section Reread

variable {r : Course}

theorem foldl_step_names (r : Course) (names : List String) :
    (names.map Component.name).foldl step r = { r with names := r.names ++ names } := by
  induction names generalizing r with
  | nil => simp
  | cons s rest ih => simp [ih, step]

theorem foldl_step_components (r : Course) : r.components.foldl step start = r.reduced := by
  obtain ⟨isAbsolute, surplus, names⟩ := r
  rw [components, List.foldl_append, foldl_step_names]
  rcases Nat.mod_two_eq_zero_or_one surplus with h | h <;>
    cases isAbsolute <;> simp [base, start, step, reduced, h]

theorem reduced_eq_iff {other : Course} :
    r.reduced = other.reduced ↔
      r.isAbsolute = other.isAbsolute ∧ r.surplus % 2 = other.surplus % 2 ∧
        r.names = other.names := by
  simp [reduced, Course.mk.injEq]

theorem components_reduced : r.reduced.components = r.components := by
  obtain ⟨isAbsolute, surplus, names⟩ := r
  cases isAbsolute <;> simp [components, base, reduced]

theorem components_inj {other : Course} :
    r.components = other.components ↔ r.reduced = other.reduced := by
  constructor
  · intro h
    rw [← foldl_step_components, h, foldl_step_components]
  · intro h
    rw [← components_reduced, h, components_reduced]

theorem mem_names_foldl_step {cs : List Component} {s : String}
    (h : s ∈ (cs.foldl step r).names) : s ∈ r.names ∨ .name s ∈ cs := by
  induction cs generalizing r with
  | nil => exact .inl h
  | cons c cs ih =>
    rcases ih h with hmem | hmem
    · cases c with
      | root => cases hmem
      | here => exact .inl hmem
      | up =>
        rw [step] at hmem
        split at hmem
        · exact .inl hmem
        · exact .inl (List.dropLast_subset _ hmem)
      | name t =>
        rcases List.mem_append.mp hmem with hmem | hmem
        · exact .inl hmem
        · obtain rfl := List.mem_singleton.mp hmem
          exact .inr List.mem_cons_self
    · exact .inr (List.mem_cons_of_mem _ hmem)

end Reread

end Course

namespace Path

variable (p : Path)

def course : Course := p.components.foldl Course.step .start

def location : Location := p.course.location

def surplus : Nat := p.course.surplus

theorem normalComponents_eq : p.normalComponents = p.course.components := by
  have h := Course.start.foldl_push p.components
  rw [normalComponents, course, ← List.reverse_inj, List.reverse_reverse, ← h]
  rfl

theorem isProper_of_mem_names {s : String} (h : s ∈ p.course.names) :
    (Component.name s).IsProper := by
  obtain ⟨start, cs, hstart, hcomponents, hproper⟩ := p.exists_components
  rcases Course.mem_names_foldl_step h with h | h
  · cases h
  · rw [hcomponents] at h
    rcases List.mem_append.mp h with hmem | hmem
    · rcases hstart with rfl | rfl | rfl <;> simp at hmem
    · exact hproper _ hmem

theorem components_ofComponents_course {r : Course}
    (h : ∀ s ∈ r.names, (Component.name s).IsProper) :
    (ofComponents r.components).components = r.components := by
  have hproper : ∀ c ∈ (if r.surplus % 2 = 1 then [Component.up] else []) ++ r.names.map .name,
      c.IsProper := by
    intro c hc
    rcases List.mem_append.mp hc with hc | hc
    · split at hc
      · obtain rfl := List.mem_singleton.mp hc
        trivial
      · cases hc
    · obtain ⟨s, hs, rfl⟩ := List.mem_map.mp hc
      exact h s hs
  rw [Course.components, Course.base, List.append_assoc]
  cases r.isAbsolute with
  | true => exact components_ofComponents_root hproper
  | false => exact components_ofComponents hproper

theorem components_normalize : p.normalize.components = p.course.components := by
  rw [normalize, normalComponents_eq]
  exact components_ofComponents_course fun s hs ↦ p.isProper_of_mem_names hs

theorem course_normalize : p.normalize.course = p.course.reduced := by
  rw [course, components_normalize, Course.foldl_step_components]

theorem normalize_eq_iff {p q : Path} :
    p.normalize = q.normalize ↔ p.course.reduced = q.course.reduced := by
  constructor
  · intro h
    rw [← course_normalize, h, course_normalize]
  · intro h
    rw [normalize, normalize, normalComponents_eq, normalComponents_eq,
      Course.components_inj.mpr h]

def foldLast (names : List String) : List String :=
  match names.getLast? with
  | none => []
  | some s => names.dropLast ++ [if isDescriptorFileName s then descriptorFileName else s]

theorem descriptorKey_eq :
    p.descriptorKey =
      Course.components { p.course with names := foldLast p.course.names } := by
  rw [descriptorKey, normalComponents_eq]
  obtain ⟨isAbsolute, surplus, names⟩ := p.course
  rcases List.eq_nil_or_concat names with rfl | ⟨names, s, rfl⟩
  · rcases Nat.mod_two_eq_zero_or_one surplus with h | h <;>
      cases isAbsolute <;> simp [Course.components, Course.base, foldLast, foldFileName, h]
  · by_cases hs : isDescriptorFileName s = true <;>
      simp [Course.components, Course.base, foldLast, foldFileName, hs]

def ofModule (directory : Path) (entry : String) : Path :=
  let file := directory.join ⟨Text.trim entry⟩
  if ".xml".toList.isSuffixOf (lowerAscii (Text.trim entry)) then file
  else file.join ⟨descriptorFileName⟩

theorem moduleDescriptorKey_eq (directory : Path) (entry : String) :
    moduleDescriptorKey directory entry = (ofModule directory entry).descriptorKey := by
  rw [moduleDescriptorKey, ofModule]
  split <;> rfl

/-- Normalization keeps a location up to pairs of levels, and it tells two paths apart by where they
start, by their names and by whether the `..` without a name are even in number. Keys of
descriptors tell the same, but for the case of a descriptor's own name. -/
theorem normalize_exact (p q : Path) :
    p.normalize.location = { p.location with climbs := p.location.climbs % 2 } ∧
    (p.normalize.location = p.location ↔ p.location.climbs < 2) ∧
    (p.location = q.location → p.location.isAbsolute = false → p.normalize = q.normalize) ∧
    (p.normalize = q.normalize ↔
      p.location.isAbsolute = q.location.isAbsolute ∧ p.surplus % 2 = q.surplus % 2 ∧
        p.location.names = q.location.names) ∧
    (p.descriptorKey = q.descriptorKey ↔
      p.location.isAbsolute = q.location.isAbsolute ∧ p.surplus % 2 = q.surplus % 2 ∧
        foldLast p.location.names = foldLast q.location.names) ∧
    (∀ directory entry,
      moduleDescriptorKey directory entry = (ofModule directory entry).descriptorKey) := by
  have hlocation : p.normalize.location = { p.location with climbs := p.location.climbs % 2 } := by
    rw [location, course_normalize, Course.location_reduced]
    rfl
  have hnormalize : p.normalize = q.normalize ↔
      p.location.isAbsolute = q.location.isAbsolute ∧ p.surplus % 2 = q.surplus % 2 ∧
        p.location.names = q.location.names := by
    rw [normalize_eq_iff, Course.reduced_eq_iff]
    rfl
  refine ⟨hlocation, ?_, ?_, hnormalize, ?_, moduleDescriptorKey_eq⟩
  · have hclimbs : p.location.climbs % 2 = p.location.climbs ↔ p.location.climbs < 2 := by omega
    rw [hlocation, ← hclimbs]
    exact ⟨congrArg Location.climbs, fun h ↦ by rw [h]⟩
  · intro hsame hrelative
    have hother : q.location.isAbsolute = false := hsame ▸ hrelative
    have hsurplus : p.surplus = q.surplus := by
      have hp : p.location.climbs = p.surplus := Course.climbs_of_relative hrelative
      have hq : q.location.climbs = q.surplus := Course.climbs_of_relative hother
      rw [← hp, ← hq, hsame]
    rw [hnormalize, hsame, hsurplus]
    exact ⟨rfl, rfl, rfl⟩
  · rw [descriptorKey_eq, descriptorKey_eq, Course.components_inj, Course.reduced_eq_iff]
    rfl

/-- Two levels up are taken for none, and a `..` at the root makes another path of one place. -/
theorem levels_lost :
    (⟨"../../x"⟩ : Path).location = ⟨false, 2, ["x"]⟩ ∧
      (⟨"../../x"⟩ : Path).normalize.location = ⟨false, 0, ["x"]⟩ ∧
      (⟨"/../a"⟩ : Path).location = (⟨"/a"⟩ : Path).location ∧
      (⟨"/../a"⟩ : Path).normalize ≠ (⟨"/a"⟩ : Path).normalize := by
  decide

end Path

end Reactor
