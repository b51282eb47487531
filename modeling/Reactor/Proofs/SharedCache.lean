import Mathlib.Data.List.Nodup
import Reactor.Proofs.VersionPrecedence

namespace Reactor

section StateM

variable {σ α β : Type} {like : σ → Prop}

/-- Where `like` holds after a run it held before, and the other run is the same. -/
structure Traces (like : σ → Prop) (x y : StateM σ α) : Prop where
  before : ∀ a, like (x a).2 → like a
  same : ∀ a, like (x a).2 → y a = x a

namespace Traces

theorem pure (b : α) : Traces like (Pure.pure b : StateM σ α) (Pure.pure b) :=
  ⟨fun _ h ↦ h, fun _ _ ↦ rfl⟩

theorem bind {x y : StateM σ α} {f g : α → StateM σ β} (hx : Traces like x y)
    (hf : ∀ b, Traces like (f b) (g b)) : Traces like (x >>= f) (y >>= g) := by
  constructor
  · intro a h
    exact hx.before a ((hf _).before _ h)
  · intro a h
    rw [bind_run, bind_run, hx.same a ((hf _).before _ h)]
    exact (hf _).same _ h

theorem mapM {f g : α → StateM σ β} (h : ∀ b, Traces like (f b) (g b)) (xs : List α) :
    Traces like (xs.mapM f) (xs.mapM g) := by
  induction xs with
  | nil => exact .pure []
  | cons x xs ih =>
    rw [List.mapM_cons, List.mapM_cons]
    exact (h x).bind fun b ↦ ih.bind fun bs ↦ .pure _

theorem findSomeM? {f g : α → StateM σ (Option β)} (h : ∀ b, Traces like (f b) (g b))
    (xs : List α) : Traces like (xs.findSomeM? f) (xs.findSomeM? g) := by
  induction xs with
  | nil => exact .pure none
  | cons x xs ih =>
    rw [List.findSomeM?_cons, List.findSomeM?_cons]
    refine (h x).bind fun b ↦ ?_
    cases b with
    | none => exact ih
    | some b => exact .pure _

end Traces

variable {P : σ → Prop} {x y : StateM σ α}

/-- That a run keeps a property is to say that it traces itself back from where the property
fails. -/
theorem Traces.of_keeps (h : ∀ a, P a → P (x a).2) : Traces (¬ P ·) x x :=
  ⟨fun a hn hp ↦ hn (h a hp), fun _ _ ↦ rfl⟩

theorem Traces.keeps (h : Traces (¬ P ·) x y) {a : σ} (hp : P a) : P (x a).2 := by
  by_contra hn
  exact h.before a hn hp

end StateM

/-- A call for a view. -/
inductive Synthesis
  | inherited (leaf : Descriptor) (chainRootFirst : List Descriptor) (rendered : Option Rendered)
  | detached (leaf : Descriptor) (rendered : Option Rendered)

def Synthesis.run (s : Synthesizer) : Synthesis → StateM ImportCache EffectiveView
  | inherited leaf chainRootFirst rendered => s.synthesize leaf chainRootFirst rendered
  | detached leaf rendered => s.synthesizeDetached leaf rendered

namespace Synthesizer

section Traces

variable {s t : Synthesizer} {like : ImportCache → Prop}

theorem visit_traces {c : Coordinate} (h : Traces like (s.loadImport c) (t.loadImport c)) :
    Traces (like ·.cache) (s.visit c) (t.visit c) := by
  constructor
  · intro search hlike
    rw [visit] at hlike
    split at hlike
    · exact hlike
    · exact h.before _ hlike
  · intro search hlike
    rw [visit] at hlike
    rw [visit, visit]
    split at hlike
    · next hmem => rw [if_pos hmem, if_pos hmem]
    · next hmem => rw [if_neg hmem, if_neg hmem, h.same _ hlike]

/-- By induction on the depth of the search, which reaches the cache only through its visits. -/
theorem lookupManaged_traces (h : ∀ c, Traces like (s.loadImport c) (t.loadImport c))
    (key : ArtifactKey) (depth : Nat) (layers : List Descriptor) (scope : Properties) :
    Traces (like ·.cache) (s.lookupManaged key depth layers scope)
      (t.lookupManaged key depth layers scope) := by
  induction depth generalizing layers scope with
  | zero =>
    rw [lookupManaged, lookupManaged]
    exact .pure _
  | succ remaining ih =>
    rw [lookupManaged_succ, lookupManaged_succ]
    cases managedIn? layers scope key with
    | some managed => exact .pure _
    | none =>
      refine .findSomeM? (fun c ↦ (visit_traces (h c)).bind fun i ↦ ?_) _
      cases i with
      | none => exact .pure _
      | some i => exact ih i.layers i.scope

theorem managedFor_traces (hdepth : t.maxImportDepth = s.maxImportDepth)
    (h : ∀ c, Traces like (s.loadImport c) (t.loadImport c)) (key : ArtifactKey)
    (layers : List Descriptor) (scope : Properties) (rendered : Option Rendered) :
    Traces like (s.managedFor key layers scope rendered)
      (t.managedFor key layers scope rendered) := by
  have hsearch := lookupManaged_traces h key s.maxImportDepth layers scope
  constructor
  · intro cache hlike
    exact hsearch.before ⟨[], cache⟩ hlike
  · intro cache hlike
    rw [managedFor, managedFor, hdepth, hsearch.same ⟨[], cache⟩ hlike]

variable (hmanaged : ∀ key layers scope rendered,
  Traces like (s.managedFor key layers scope rendered) (t.managedFor key layers scope rendered))

include hmanaged

theorem build_traces (leaf : Descriptor) (ancestorsRootFirst : List Descriptor)
    (rendered : Option Rendered) :
    Traces like (s.build leaf ancestorsRootFirst rendered)
      (t.build leaf ancestorsRootFirst rendered) := by
  rw [build, build]
  refine .bind (.mapM (fun p ↦ ?_) _) fun _ ↦ .pure _
  exact .bind (hmanaged ..) fun _ ↦ .pure _

theorem run_traces
    (hparents : ∀ cache start known, like (s.logParents cache start known) →
      like cache ∧ t.parentRequests start known = s.parentRequests start known)
    (call : Synthesis) : Traces like (call.run s) (call.run t) := by
  cases call with
  | detached leaf rendered => exact build_traces hmanaged leaf [] rendered
  | inherited leaf chain rendered =>
    have hbuild := build_traces hmanaged leaf
      ((s.externalParents leaf chain).reverse ++ chain) rendered
    constructor
    · intro cache hlike
      exact (hparents cache leaf chain (hbuild.before _ hlike)).1
    · intro cache hlike
      have hsame := (hparents cache leaf chain (hbuild.before _ hlike)).2
      have hexternal : t.externalParents leaf chain = s.externalParents leaf chain := by
        rw [externalParents, hsame, externalParents]
      have hlog : t.logParents cache leaf chain = s.logParents cache leaf chain := by
        rw [logParents, hsame, logParents]
      rw [Synthesis.run, synthesize, hexternal, hlog]
      exact hbuild.same _ hlike

end Traces

end Synthesizer

namespace ImportCache

def askedImports (cache : ImportCache) : List Coordinate :=
  cache.requests.filterMap fun
    | .imported c => some c
    | .parent _ => none

structure AskedOnce (cache : ImportCache) : Prop where
  asked : cache.askedImports = cache.imports.map Prod.fst
  nodup : (cache.imports.map Prod.fst).Nodup

theorem AskedOnce.empty : ImportCache.empty.AskedOnce := ⟨rfl, .nil⟩

theorem AskedOnce.logParents {cache : ImportCache} (h : cache.AskedOnce) (s : Synthesizer)
    (start : Descriptor) (knownRootFirst : List Descriptor) :
    (s.logParents cache start knownRootFirst).AskedOnce := by
  refine ⟨?_, h.nodup⟩
  have hnone : ((s.parentRequests start knownRootFirst).map fun r ↦ Request.parent r.1).filterMap
      (fun | .imported c => some c | .parent _ => none) = ([] : List Coordinate) := by
    rw [List.filterMap_map]
    exact List.filterMap_eq_nil_iff.mpr fun _ _ ↦ rfl
  rw [askedImports, Synthesizer.logParents, List.filterMap_append, List.filterMap_reverse, hnone]
  exact h.asked

theorem AskedOnce.add {cache : ImportCache} (h : cache.AskedOnce) {c : Coordinate}
    (hnew : c ∉ cache.imports.map Prod.fst) (known : Option Imported) :
    AskedOnce ⟨(c, known) :: cache.imports, .imported c :: cache.requests⟩ :=
  ⟨congrArg (c :: ·) h.asked, List.nodup_cons.mpr ⟨hnew, h.nodup⟩⟩

theorem AskedOnce.loadImport {cache : ImportCache} (h : cache.AskedOnce) (s : Synthesizer)
    (c : Coordinate) : (s.loadImport c cache).2.AskedOnce := by
  unfold Synthesizer.loadImport
  cases hc : cache.imports.lookup c with
  | some known => exact h
  | none =>
    have hnew : c ∉ cache.imports.map Prod.fst := by
      intro hmem
      obtain ⟨p, hp, rfl⟩ := List.mem_map.mp hmem
      simpa using List.lookup_eq_none_iff.mp hc p hp
    cases loadFrom s.sources c with
    | none => exact h.add hnew none
    | some d => exact (h.add hnew (some ⟨d, s.externalParents d []⟩)).logParents s d []

theorem AskedOnce.count_le_one {cache : ImportCache} (h : cache.AskedOnce) (c : Coordinate) :
    cache.requests.count (.imported c) ≤ 1 := by
  have hcount : cache.requests.count (.imported c) = cache.askedImports.count c := by
    rw [askedImports, List.count_filterMap, List.count]
    congr 1
    funext r
    cases r <;> simp
  rw [hcount, h.asked]
  exact List.nodup_iff_count_le_one.mp h.nodup c

/-- The sources of two synthesizers answer each request of the log in the same way. -/
def AnsweredAlike (s t : Synthesizer) (cache : ImportCache) : Prop :=
  ∀ r ∈ cache.requests, loadFrom t.sources r.coordinate = loadFrom s.sources r.coordinate

end ImportCache

namespace Synthesizer

variable {s t : Synthesizer}

theorem parentWalk_congr {remaining : Nat} {visited : List ArtifactKey} {start : Option Coordinate}
    (h : ∀ r ∈ s.parentWalk remaining visited start,
      loadFrom t.sources r.1 = loadFrom s.sources r.1) :
    t.parentWalk remaining visited start = s.parentWalk remaining visited start := by
  induction remaining generalizing visited start with
  | zero => rw [parentWalk, parentWalk]
  | succ remaining ih =>
    cases start with
    | none => simp [parentWalk]
    | some c =>
      rw [parentWalk] at h
      rw [parentWalk, parentWalk]
      by_cases hmem : c.key ∈ visited
      · rw [if_pos hmem, if_pos hmem]
      · rw [if_neg hmem] at h
        rw [if_neg hmem, if_neg hmem]
        cases hp : loadFrom s.sources c with
        | none =>
          have hc : loadFrom t.sources c = none := by simpa [hp] using h
          rw [hc]
        | some p =>
          rw [hp] at h
          obtain ⟨hc, hrest⟩ := List.forall_mem_cons.mp h
          rw [show loadFrom t.sources c = some p from hc.trans hp]
          dsimp only
          rw [ih hrest]

variable {cache : ImportCache}

theorem requests_subset_loadImport (c : Coordinate) :
    cache.requests ⊆ (s.loadImport c cache).2.requests := by
  unfold loadImport
  cases cache.imports.lookup c with
  | some known => exact List.Subset.refl _
  | none =>
    cases loadFrom s.sources c with
    | none => exact List.subset_cons_self ..
    | some d => exact List.subset_append_of_subset_right _ (List.subset_cons_self ..)

theorem parents_of_answeredAlike (hdepth : t.maxImportDepth = s.maxImportDepth)
    (start : Descriptor) (known : List Descriptor)
    (h : (s.logParents cache start known).AnsweredAlike s t) :
    cache.AnsweredAlike s t ∧ t.parentRequests start known = s.parentRequests start known := by
  rw [ImportCache.AnsweredAlike, logParents, List.forall_mem_append] at h
  refine ⟨h.2, ?_⟩
  rw [parentRequests, parentRequests, hdepth]
  refine parentWalk_congr fun r hr ↦ h.1 (.parent r.1) ?_
  exact List.mem_reverse.mpr (List.mem_map_of_mem hr)

theorem loadImport_traces (hdepth : t.maxImportDepth = s.maxImportDepth) (c : Coordinate) :
    Traces (ImportCache.AnsweredAlike s t) (s.loadImport c) (t.loadImport c) := by
  constructor
  · intro cache h r hr
    exact h r (requests_subset_loadImport c hr)
  · intro cache h
    unfold loadImport at h ⊢
    cases hc : cache.imports.lookup c with
    | some known => rfl
    | none =>
      rw [hc] at h
      cases hd : loadFrom s.sources c with
      | none =>
        rw [hd] at h
        have ht : loadFrom t.sources c = none := (h _ List.mem_cons_self).trans hd
        rw [ht]
      | some d =>
        rw [hd] at h
        obtain ⟨hbefore, hparents⟩ := parents_of_answeredAlike hdepth d [] h
        have ht : loadFrom t.sources c = some d := (hbefore _ List.mem_cons_self).trans hd
        rw [ht]
        simp only [externalParents, logParents, hparents]

theorem build_eq (h : cache.Reachable s) (leaf : Descriptor) (ancestorsRootFirst : List Descriptor)
    (rendered : Option Rendered) :
    (s.build leaf ancestorsRootFirst rendered cache).1 =
      (s.build leaf ancestorsRootFirst rendered .empty).1 := by
  have hsame := (build_dependencies h leaf ancestorsRootFirst rendered).trans
    (build_dependencies .empty leaf ancestorsRootFirst rendered).symm
  -- of the three fields only the dependencies are read through the cache
  have hview (cache : ImportCache) : (s.build leaf ancestorsRootFirst rendered cache).1 =
      { coordinate := (s.build leaf ancestorsRootFirst rendered .empty).1.coordinate
        dependencies := (s.build leaf ancestorsRootFirst rendered cache).1.dependencies
        properties := (s.build leaf ancestorsRootFirst rendered .empty).1.properties } := rfl
  rw [hview, hsame]

theorem run_of_reachable (h : cache.Reachable s) (call : Synthesis) :
    (call.run s cache).1 = (call.run s .empty).1 ∧ (call.run s cache).2.Reachable s := by
  constructor
  · cases call with
    | detached leaf rendered => exact build_eq h leaf [] rendered
    | inherited leaf chain rendered =>
      exact (build_eq (.parents leaf chain h) ..).trans
        (build_eq (.parents leaf chain .empty) ..).symm
  · have htraces : Traces (¬ ImportCache.Reachable s ·) (call.run s) (call.run s) := by
      refine run_traces (fun key layers scope rendered ↦ .of_keeps fun cache h ↦ ?_)
        (fun cache start known hn ↦ ⟨fun h ↦ hn (.parents start known h), rfl⟩) call
      exact (managedFor_run h key layers scope rendered).2
    exact htraces.keeps h

/-- Calls that share a synthesizer give the views that each of them gives on its own. The sources
are asked at most once for each import, found or missing, and nothing but the answers to the logged
requests decides what the calls give. -/
theorem shared_cache_transparent (s : Synthesizer) (calls : List Synthesis) :
    let shared := calls.mapM (Synthesis.run s) ImportCache.empty
    shared.1 = calls.map (fun call ↦ (call.run s .empty).1) ∧
      (∀ c, shared.2.requests.count (.imported c) ≤ 1) ∧
      ∀ t : Synthesizer, t.maxImportDepth = s.maxImportDepth →
        (∀ r ∈ shared.2.requests,
          loadFrom t.sources r.coordinate = loadFrom s.sources r.coordinate) →
        calls.mapM (Synthesis.run t) ImportCache.empty = shared := by
  intro shared
  refine ⟨?_, ?_, ?_⟩
  · exact (mapM_run (P := ImportCache.Reachable s) (fun call _ h ↦ run_of_reachable h call) calls
      .empty).1
  · have htraces (call : Synthesis) :
        Traces (¬ ImportCache.AskedOnce ·) (call.run s) (call.run s) :=
      run_traces (managedFor_traces rfl fun c ↦ .of_keeps fun _ h ↦ h.loadImport s c)
        (fun _ start known hn ↦ ⟨fun h ↦ hn (h.logParents s start known), rfl⟩) call
    have hasked : shared.2.AskedOnce := (Traces.mapM htraces calls).keeps .empty
    exact hasked.count_le_one
  · intro t hdepth halike
    have htraces (call : Synthesis) :
        Traces (ImportCache.AnsweredAlike s t) (call.run s) (call.run t) :=
      run_traces (managedFor_traces hdepth (loadImport_traces hdepth))
        (fun _ start known h ↦ parents_of_answeredAlike hdepth start known h) call
    exact (Traces.mapM htraces calls).same _ halike

def importingLeaf (artifact : String) : Descriptor :=
  { Descriptor.managing artifact [.importing "shared"] with
    dependencies := [⟨⟨"g", "lib", none⟩, none, none⟩, ⟨⟨"g", "other", none⟩, none, none⟩] }

def sharedImport : Descriptor := .managing "shared" [.importing "missing", .pinning "lib"]

def importing : Synthesizer := ⟨[.ofList [sharedImport]], 2⟩

def importingMore : Synthesizer := ⟨[.ofList [sharedImport, .bare "unasked"]], 2⟩

def threeCalls : List Synthesis :=
  [.inherited (importingLeaf "first") [] none, .detached (importingLeaf "first") none,
    .inherited (importingLeaf "second") [.bare "root"] none]

/-- Three calls that need the same imports ask for each of them once, also for the missing one. -/
theorem threeCalls_shared :
    let shared := threeCalls.mapM (Synthesis.run importing) ImportCache.empty
    shared.2.requests = [.imported (.bare "missing"), .imported (.bare "shared")] ∧
      shared.1.map EffectiveView.dependencies =
        List.replicate 3 [⟨"g", "lib", "1", "compile"⟩, ⟨"g", "other", "", "compile"⟩] ∧
      shared.1 = threeCalls.map (fun call ↦ (call.run importing .empty).1) ∧
      threeCalls.mapM (Synthesis.run importingMore) ImportCache.empty = shared := by
  intro shared
  obtain ⟨hviews, -, hsources⟩ := shared_cache_transparent importing threeCalls
  have hrequests : shared.2.requests =
      [.imported (.bare "missing"), .imported (.bare "shared")] := by decide +kernel
  have halike : ∀ r ∈ shared.2.requests,
      loadFrom importingMore.sources r.coordinate = loadFrom importing.sources r.coordinate := by
    rw [hrequests]
    simp only [List.forall_mem_cons]
    exact ⟨rfl, rfl, by simp⟩
  exact ⟨hrequests, by decide +kernel, hviews, hsources importingMore rfl halike⟩

end Synthesizer

end Reactor
