import Mathlib.Data.List.Nodup
import Reactor.Proofs.ManagedEntry
import Reactor.Proofs.ParentChain

namespace Reactor.Synthesizer

/-- A walk along parents that the sources supply, with each coordinate that is asked for beside what
is supplied. -/
inductive Ascent (s : Synthesizer) : Descriptor → List (Coordinate × Descriptor) → Descriptor → Prop
  | here (d : Descriptor) : Ascent s d [] d
  | up {d p top : Descriptor} {c : Coordinate} {path : List (Coordinate × Descriptor)} :
      d.parentCoordinate? = some c → loadFrom s.sources c = some p → Ascent s p path top →
      Ascent s d ((c, p) :: path) top

def answered (requests : List (Coordinate × Option Descriptor)) : List (Coordinate × Descriptor) :=
  requests.filterMap fun r ↦ r.2.map (r.1, ·)

/-- What is asked for on the way up from a descriptor that may meet `remaining` more parents and
has met the keys of `visited`. The way ends where no parent is named, at a key met before, at a
parent that the sources lack, or at the limit. -/
structure Asks (s : Synthesizer) (remaining : Nat) (visited : List ArtifactKey) (d : Descriptor)
    (requests : List (Coordinate × Option Descriptor)) : Prop where
  keys_nodup : (requests.map (·.1.key)).Nodup
  keys_new : ∀ r ∈ requests, r.1.key ∉ visited
  length_le : (answered requests).length ≤ remaining
  ends : ∃ top, s.Ascent d (answered requests) top ∧ ∀ c, top.parentCoordinate? = some c →
    c.key ∈ visited ++ (answered requests).map (·.1.key) ∨ loadFrom s.sources c = none ∨
      (answered requests).length = remaining

variable {s : Synthesizer} {remaining : Nat} {visited : List ArtifactKey} {d p : Descriptor}
  {c : Coordinate} {requests : List (Coordinate × Option Descriptor)}

namespace Asks

theorem nothing (h : ∀ c, d.parentCoordinate? = some c → c.key ∈ visited ∨ remaining = 0) :
    s.Asks remaining visited d [] := by
  refine ⟨.nil, by simp, Nat.zero_le _, d, .here d, ?_⟩
  intro c hc
  rcases h c hc with hmem | rfl
  · exact .inl (List.mem_append_left _ hmem)
  · exact .inr (.inr rfl)

theorem missing (hc : d.parentCoordinate? = some c) (hnew : c.key ∉ visited)
    (hmissing : loadFrom s.sources c = none) : s.Asks remaining visited d [(c, none)] := by
  refine ⟨List.nodup_singleton _, by simpa using hnew, Nat.zero_le _, d, .here d, ?_⟩
  intro b hb
  obtain rfl : c = b := Option.some.inj (hc.symm.trans hb)
  exact .inr (.inl hmissing)

theorem supplied (hc : d.parentCoordinate? = some c) (hnew : c.key ∉ visited)
    (hp : loadFrom s.sources c = some p) (h : s.Asks remaining (c.key :: visited) p requests) :
    s.Asks (remaining + 1) visited d ((c, some p) :: requests) := by
  have hother : ∀ r ∈ requests, r.1.key ≠ c.key ∧ r.1.key ∉ visited := by
    intro r hr
    simpa using h.keys_new r hr
  have hanswered : answered ((c, some p) :: requests) = (c, p) :: answered requests := rfl
  obtain ⟨top, hascent, hend⟩ := h.ends
  refine ⟨?_, ?_, ?_, top, ?_, ?_⟩
  · rw [List.map_cons, List.nodup_cons]
    refine ⟨fun hmem ↦ ?_, h.keys_nodup⟩
    obtain ⟨r, hr, hkey⟩ := List.mem_map.mp hmem
    exact (hother r hr).1 hkey
  · exact List.forall_mem_cons.mpr ⟨hnew, fun r hr ↦ (hother r hr).2⟩
  · rw [hanswered]
    exact Nat.succ_le_succ h.length_le
  · exact .up hc hp hascent
  · intro b hb
    rw [hanswered, List.map_cons, List.length_cons, Nat.add_right_cancel_iff]
    exact (hend b hb).imp_left List.perm_middle.mem_iff.mpr

end Asks

theorem parentWalk_asks (remaining : Nat) (visited : List ArtifactKey) (d : Descriptor) :
    s.Asks remaining visited d (s.parentWalk remaining visited d.parentCoordinate?) := by
  induction remaining generalizing visited d with
  | zero =>
    rw [parentWalk]
    exact .nothing fun _ _ ↦ .inr rfl
  | succ remaining ih =>
    cases hc : d.parentCoordinate? with
    | none =>
      have hnone : s.parentWalk (remaining + 1) visited none = [] := by simp [parentWalk]
      rw [hnone]
      exact .nothing fun c h ↦ by simp [hc] at h
    | some c =>
      rw [parentWalk]
      by_cases hmem : c.key ∈ visited
      · rw [if_pos hmem]
        refine .nothing fun b hb ↦ .inl ?_
        obtain rfl : c = b := Option.some.inj (hc.symm.trans hb)
        exact hmem
      · rw [if_neg hmem]
        cases hp : loadFrom s.sources c with
        | none => exact .missing hc hmem hp
        | some p => exact .supplied hc hmem hp (ih (c.key :: visited) p)

/-- The parents beyond the known ancestors are those of a walk that starts at the root-most of them,
or at the descriptor itself. It is no longer than the limit, never asks for an artifact that is
known or was asked for, and ends only where it cannot go on. -/
theorem externalParents_ascend (s : Synthesizer) (start : Descriptor)
    (knownRootFirst : List Descriptor) :
    let known := start.key :: knownRootFirst.map Descriptor.key
    let requests := s.parentRequests start knownRootFirst
    ∃ path top, s.Ascent (knownRootFirst.head?.getD start) path top ∧
      s.externalParents start knownRootFirst = path.map Prod.snd ∧
      path = answered requests ∧
      path.length ≤ s.maxImportDepth ∧
      (requests.map (·.1.key)).Nodup ∧
      (∀ r ∈ requests, r.1.key ∉ known) ∧
      ∀ c, top.parentCoordinate? = some c →
        c.key ∈ known ++ path.map (·.1.key) ∨ loadFrom s.sources c = none ∨
          path.length = s.maxImportDepth := by
  intro known requests
  have hasks : s.Asks s.maxImportDepth known (knownRootFirst.head?.getD start) requests :=
    parentWalk_asks ..
  obtain ⟨top, hascent, hend⟩ := hasks.ends
  have hparents : s.externalParents start knownRootFirst = (answered requests).map Prod.snd := by
    rw [externalParents, answered, List.map_filterMap]
    simp [requests, Function.comp_def]
  exact ⟨answered requests, top, hascent, hparents, rfl, hasks.length_le, hasks.keys_nodup,
    hasks.keys_new, hend⟩

def circle : Synthesizer :=
  ⟨[.ofList [Forest.childOf "a" "b", Forest.childOf "b" "c", Forest.childOf "c" "a"]], 8⟩

/-- The walk goes round once and ends at the artifact that it asked for first. -/
theorem circle_ascent :
    let leaf := Descriptor.bare "leaf"
    let root := Forest.childOf "root" "b"
    let known := leaf.key :: [root].map Descriptor.key
    (circle.externalParents leaf [root]).map Descriptor.key =
        [⟨"g", "b"⟩, ⟨"g", "c"⟩, ⟨"g", "a"⟩] ∧
      ∃ path top, circle.Ascent root path top ∧
        circle.externalParents leaf [root] = path.map Prod.snd ∧
        (∀ r ∈ circle.parentRequests leaf [root], r.1.key ∉ known) ∧
        ∀ c, top.parentCoordinate? = some c →
          c.key ∈ known ++ path.map (·.1.key) ∨ loadFrom circle.sources c = none ∨
            path.length = 8 := by
  intro leaf root known
  obtain ⟨path, top, hascent, hparents, -, -, -, hnew, hend⟩ :=
    externalParents_ascend circle leaf [root]
  exact ⟨by decide +kernel, path, top, hascent, hparents, hnew, hend⟩

end Reactor.Synthesizer
