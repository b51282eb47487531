import Reactor.Proofs.ManagedEntry

namespace Reactor

def Synthesizer.imported? (s : Synthesizer) (c : Coordinate) : Option Imported :=
  (loadFrom s.sources c).map fun d ↦ ⟨d, s.externalParents d []⟩

/-- An import on a tour, with the number of imports that the tour may still go below it. -/
structure ImportVisit where
  coordinate : Coordinate
  remaining : Nat
  imported : Imported

def ImportCache.Coherent (s : Synthesizer) (cache : ImportCache) : Prop :=
  ∀ c known, cache.imports.lookup c = some known → known = s.imported? c

/-- The caches that searches and walks along parents leave, in any order, from an empty one. -/
inductive ImportCache.Reachable (s : Synthesizer) : ImportCache → Prop
  | empty : Reachable s .empty
  | search (search : Search) (key : ArtifactKey) (depth : Nat) (layers : List Descriptor)
      (scope : Properties) : Reachable s search.cache →
      Reachable s (s.lookupManaged key depth layers scope search).2.cache
  | parents {cache : ImportCache} (start : Descriptor) (knownRootFirst : List Descriptor) :
      Reachable s cache → Reachable s (s.logParents cache start knownRootFirst)

section StateM

variable {σ α β : Type}

theorem bind_run (x : StateM σ α) (f : α → StateM σ β) (a : σ) :
    (x >>= f) a = f (x a).1 (x a).2 := rfl

theorem findSomeM?_run_cons (f : α → StateM σ (Option β)) (x : α) (xs : List α) (a : σ) :
    (x :: xs).findSomeM? f a = match (f x a).1 with
      | some b => (some b, (f x a).2)
      | none => xs.findSomeM? f (f x a).2 := by
  rw [List.findSomeM?_cons, bind_run]
  cases (f x a).1 <;> rfl

/-- Where every state that can arise gives the same results, a traversal is a plain map. -/
theorem mapM_run {f : α → StateM σ β} {g : α → β} {P : σ → Prop}
    (hf : ∀ x a, P a → (f x a).1 = g x ∧ P (f x a).2) (xs : List α) {a : σ} (ha : P a) :
    (xs.mapM f a).1 = xs.map g ∧ P (xs.mapM f a).2 := by
  induction xs generalizing a with
  | nil => exact ⟨rfl, ha⟩
  | cons x xs ih =>
    obtain ⟨hx, hP⟩ := hf x a ha
    obtain ⟨hxs, hP'⟩ := ih hP
    rw [List.mapM_cons, bind_run, bind_run]
    refine ⟨?_, hP'⟩
    rw [List.map_cons, ← hx, ← hxs]
    rfl

theorem map_mapM_run {γ : Type} {f : α → StateM σ β} {g : β → γ} {h : α → γ}
    (hf : ∀ x a, g (f x a).1 = h x) (xs : List α) (a : σ) :
    (xs.mapM f a).1.map g = xs.map h := by
  induction xs generalizing a with
  | nil => rfl
  | cons x xs ih =>
    rw [List.mapM_cons, bind_run, bind_run, List.map_cons, ← hf x a, ← ih (f x a).2]
    rfl

end StateM

namespace Synthesizer

variable (s : Synthesizer)

/-- The loadable imports at and below `imports` in the order of a depth-first search that meets each
text once and goes `depth` imports deep, with all texts met. -/
def tour (depth : Nat) (imports : List Coordinate) (met : List String) :
    List ImportVisit × List String :=
  match depth, imports with
  | 0, _ => ([], met)
  | _, [] => ([], met)
  | remaining + 1, c :: rest =>
    if c.text ∈ met then tour (remaining + 1) rest met
    else match s.imported? c with
      | none => tour (remaining + 1) rest (c.text :: met)
      | some i =>
        let inside := tour remaining i.imports (c.text :: met)
        let after := tour (remaining + 1) rest inside.2
        (⟨c, remaining, i⟩ :: (inside.1 ++ after.1), after.2)
termination_by (depth, imports.length)

def importPin? (key : ArtifactKey) (layers : List Descriptor) (scope : Properties) :
    Option Managed :=
  (s.tour s.maxImportDepth (importsOf layers scope) []).1.findSome? (·.imported.managed? key)

def searchImport (key : ArtifactKey) (remaining : Nat) (c : Coordinate) :
    StateM Search (Option Managed) := do
  match ← s.visit c with
  | none => return none
  | some i => s.lookupManaged key remaining i.layers i.scope

theorem lookupManaged_succ (key : ArtifactKey) (remaining : Nat) (layers : List Descriptor)
    (scope : Properties) :
    s.lookupManaged key (remaining + 1) layers scope =
      match managedIn? layers scope key with
      | some managed => pure managed
      | none => (importsOf layers scope).findSomeM? (s.searchImport key remaining) := by
  rw [lookupManaged]
  rfl

variable {s}

theorem tour_nil (depth : Nat) (met : List String) : s.tour depth [] met = ([], met) := by
  cases depth <;> simp only [tour]

theorem tour_of_mem {c : Coordinate} {met : List String} (h : c.text ∈ met) (remaining : Nat)
    (rest : List Coordinate) :
    s.tour (remaining + 1) (c :: rest) met = s.tour (remaining + 1) rest met := by
  rw [tour, if_pos h]

theorem tour_of_missing {c : Coordinate} {met : List String} (hm : c.text ∉ met)
    (hi : s.imported? c = none) (remaining : Nat) (rest : List Coordinate) :
    s.tour (remaining + 1) (c :: rest) met = s.tour (remaining + 1) rest (c.text :: met) := by
  rw [tour, if_neg hm]
  simp only [hi]

theorem tour_of_loaded {c : Coordinate} {met : List String} {i : Imported} (hm : c.text ∉ met)
    (hi : s.imported? c = some i) (remaining : Nat) (rest : List Coordinate) :
    s.tour (remaining + 1) (c :: rest) met =
      (⟨c, remaining, i⟩ :: ((s.tour remaining i.imports (c.text :: met)).1 ++
        (s.tour (remaining + 1) rest (s.tour remaining i.imports (c.text :: met)).2).1),
      (s.tour (remaining + 1) rest (s.tour remaining i.imports (c.text :: met)).2).2) := by
  rw [tour, if_neg hm]
  simp only [hi]

theorem tour_induct (s : Synthesizer) {P : Nat → List Coordinate → List String → Prop}
    (limit : ∀ imports met, P 0 imports met)
    (done : ∀ remaining met, P (remaining + 1) [] met)
    (again : ∀ remaining c rest met, c.text ∈ met → P (remaining + 1) rest met →
      P (remaining + 1) (c :: rest) met)
    (missing : ∀ remaining c rest met, c.text ∉ met → s.imported? c = none →
      P (remaining + 1) rest (c.text :: met) → P (remaining + 1) (c :: rest) met)
    (loaded : ∀ remaining c rest met i, c.text ∉ met → s.imported? c = some i →
      P remaining i.imports (c.text :: met) →
      P (remaining + 1) rest (s.tour remaining i.imports (c.text :: met)).2 →
      P (remaining + 1) (c :: rest) met)
    (depth : Nat) (imports : List Coordinate) (met : List String) : P depth imports met := by
  induction depth generalizing imports met with
  | zero => exact limit imports met
  | succ remaining ih =>
    induction imports generalizing met with
    | nil => exact done remaining met
    | cons c rest ihrest =>
      by_cases hm : c.text ∈ met
      · exact again remaining c rest met hm (ihrest met)
      cases hi : s.imported? c with
      | none => exact missing remaining c rest met hm hi (ihrest _)
      | some i => exact loaded remaining c rest met i hm hi (ih _ _) (ihrest _)

theorem loadImport_of_coherent {cache : ImportCache} (h : cache.Coherent s) (c : Coordinate) :
    (s.loadImport c cache).1 = s.imported? c ∧ (s.loadImport c cache).2.Coherent s := by
  have hadd (requests : List Request) :
      ImportCache.Coherent s ⟨(c, s.imported? c) :: cache.imports, requests⟩ := by
    intro b known hb
    rw [List.lookup_cons] at hb
    split at hb
    · next he =>
      rw [eq_of_beq he]
      exact (Option.some.inj hb).symm
    · exact h b known hb
  unfold loadImport
  cases hc : cache.imports.lookup c with
  | some known => exact ⟨h c known hc, h⟩
  | none =>
    cases hd : loadFrom s.sources c with
    | none =>
      have hi : s.imported? c = none := by simp [imported?, hd]
      rw [hi] at hadd ⊢
      exact ⟨rfl, hadd _⟩
    | some d =>
      have hi : s.imported? c = some ⟨d, s.externalParents d []⟩ := by simp [imported?, hd]
      rw [hi] at hadd ⊢
      exact ⟨rfl, hadd _⟩

theorem searchImport_of_mem {c : Coordinate} {search : Search} (h : c.text ∈ search.visited)
    (key : ArtifactKey) (remaining : Nat) :
    s.searchImport key remaining c search = (none, search) := by
  rw [searchImport, bind_run, visit, if_pos h]
  rfl

theorem searchImport_of_notMem {c : Coordinate} {search : Search} (hm : c.text ∉ search.visited)
    (h : search.cache.Coherent s) (key : ArtifactKey) (remaining : Nat) :
    ∃ cache, cache.Coherent s ∧ s.searchImport key remaining c search =
      match s.imported? c with
      | none => (none, ⟨c.text :: search.visited, cache⟩)
      | some i => s.lookupManaged key remaining i.layers i.scope
          ⟨c.text :: search.visited, cache⟩ := by
  obtain ⟨hi, hc⟩ := loadImport_of_coherent h c
  refine ⟨_, hc, ?_⟩
  rw [searchImport, bind_run, visit, if_neg hm, ← hi]
  cases (s.loadImport c search.cache).1 <;> rfl

/-- The outcome of a search beside a tour: what comes before the tour, else the first hit of the
tour, and without a hit the same texts met. -/
structure Agrees (s : Synthesizer) (key : ArtifactKey) (own : Option Managed)
    (outcome : Option Managed × Search) (whole : List ImportVisit × List String) : Prop where
  found : outcome.1 = own.or (whole.1.findSome? (·.imported.managed? key))
  coherent : outcome.2.cache.Coherent s
  met : outcome.1 = none → outcome.2.visited = whole.2

theorem findSomeM?_agrees {key : ArtifactKey} {remaining : Nat}
    (hbelow : ∀ (i : Imported) (search : Search), search.cache.Coherent s →
      Agrees s key (i.managed? key) (s.lookupManaged key remaining i.layers i.scope search)
        (s.tour remaining i.imports search.visited))
    (imports : List Coordinate) (search : Search) (h : search.cache.Coherent s) :
    Agrees s key none (imports.findSomeM? (s.searchImport key remaining) search)
      (s.tour (remaining + 1) imports search.visited) := by
  induction imports generalizing search with
  | nil =>
    rw [tour_nil]
    exact ⟨rfl, h, fun _ ↦ rfl⟩
  | cons c rest ih =>
    rw [findSomeM?_run_cons]
    by_cases hm : c.text ∈ search.visited
    · rw [searchImport_of_mem hm, tour_of_mem hm]
      exact ih search h
    obtain ⟨cache, hcache, hc⟩ := searchImport_of_notMem hm h key remaining
    rw [hc]
    cases hi : s.imported? c with
    | none =>
      rw [tour_of_missing hm hi]
      exact ih _ hcache
    | some i =>
      rw [tour_of_loaded hm hi]
      have hin := hbelow i ⟨c.text :: search.visited, cache⟩ hcache
      dsimp only
      generalize s.lookupManaged key remaining i.layers i.scope
        ⟨c.text :: search.visited, cache⟩ = outcome at hin ⊢
      obtain ⟨found, after⟩ := outcome
      have hf : found = _ := hin.found
      have hwhole (rest : List ImportVisit) : none.or
          ((⟨c, remaining, i⟩ :: ((s.tour remaining i.imports (c.text :: search.visited)).1
            ++ rest)).findSome? (·.imported.managed? key)) =
          found.or (rest.findSome? (·.imported.managed? key)) := by
        rw [hf, Option.none_or, List.findSome?_cons, List.findSome?_append]
        cases i.managed? key <;> rfl
      cases found with
      | some managed => exact ⟨(hwhole _).symm, hin.coherent, by simp⟩
      | none =>
        have hmet : after.visited = _ := hin.met rfl
        have hrest := ih after hin.coherent
        rw [hmet] at hrest
        exact ⟨hrest.found.trans (hwhole _).symm, hrest.coherent, hrest.met⟩

theorem lookupManaged_agrees (key : ArtifactKey) (depth : Nat) (layers : List Descriptor)
    (scope : Properties) (search : Search) (h : search.cache.Coherent s) :
    Agrees s key (managedIn? layers scope key) (s.lookupManaged key depth layers scope search)
      (s.tour depth (importsOf layers scope) search.visited) := by
  induction depth generalizing layers scope search with
  | zero =>
    rw [lookupManaged, tour]
    exact ⟨(Option.or_none).symm, h, fun _ ↦ rfl⟩
  | succ remaining ih =>
    rw [lookupManaged_succ]
    cases managedIn? layers scope key with
    | some managed => exact ⟨rfl, h, fun he ↦ by cases he⟩
    | none => exact findSomeM?_agrees (fun i search h ↦ ih i.layers i.scope search h) _ search h

end Synthesizer

theorem ImportCache.Reachable.coherent {s : Synthesizer} {cache : ImportCache}
    (h : cache.Reachable s) : cache.Coherent s := by
  induction h with
  | empty => exact fun c known h ↦ by cases h
  | search search key depth layers scope _ ih =>
    exact (Synthesizer.lookupManaged_agrees key depth layers scope search ih).coherent
  | parents start knownRootFirst _ ih => exact ih

namespace Synthesizer

variable {s : Synthesizer}

theorem lookupManaged_eq {cache : ImportCache} (h : cache.Reachable s) (key : ArtifactKey)
    (layers : List Descriptor) (scope : Properties) :
    (s.lookupManaged key s.maxImportDepth layers scope ⟨[], cache⟩).1 =
      (managedIn? layers scope key).or (s.importPin? key layers scope) :=
  (lookupManaged_agrees key _ layers scope ⟨[], cache⟩ h.coherent).found

theorem importPin?_eq_firstPin? (key : ArtifactKey) (layers : List Descriptor)
    (scope : Properties) :
    s.importPin? key layers scope = firstPin? key
      ((s.tour s.maxImportDepth (importsOf layers scope) []).1.flatMap (·.imported.entries)) := by
  rw [firstPin?_flatMap, importPin?]
  simp only [Imported.managed?, managedIn?_eq_firstPin?, Imported.entries]

end Synthesizer

end Reactor
