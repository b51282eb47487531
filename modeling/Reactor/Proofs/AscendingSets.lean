import Mathlib.Data.List.Basic
import Reactor.Classification

namespace Reactor

namespace Ascending

open Std

variable {α : Type} {order : α → α → Ordering} [TransCmp order] [LawfulEqCmp order]

/-- Each element comes before all behind it, so none is there twice. -/
def IsAscending (order : α → α → Ordering) (xs : List α) : Prop :=
  xs.Pairwise fun x y ↦ order x y = .lt

omit [TransCmp order] in
@[simp] theorem mem_insert {x y : α} {xs : List α} : y ∈ insert order x xs ↔ y = x ∨ y ∈ xs := by
  induction xs with
  | nil => simp [insert]
  | cons z zs ih =>
    rw [insert]
    cases h : order x z with
    | lt => exact List.mem_cons
    | eq =>
      obtain rfl := LawfulEqCmp.eq_of_compare h
      simp
    | gt => simp only [List.mem_cons, ih, or_left_comm]

theorem isAscending_insert (x : α) {xs : List α} (h : IsAscending order xs) :
    IsAscending order (insert order x xs) := by
  induction xs with
  | nil => exact List.pairwise_singleton _ x
  | cons z zs ih =>
    obtain ⟨hz, hzs⟩ := List.pairwise_cons.mp h
    rw [insert]
    cases hx : order x z with
    | lt =>
      refine List.pairwise_cons.mpr ⟨?_, h⟩
      intro y hy
      rcases List.mem_cons.mp hy with rfl | hy
      · exact hx
      · exact TransCmp.lt_trans hx (hz y hy)
    | eq => exact h
    | gt =>
      refine List.pairwise_cons.mpr ⟨?_, ih hzs⟩
      intro y hy
      rcases mem_insert.mp hy with rfl | hy
      · exact OrientedCmp.gt_iff_lt.mp hx
      · exact hz y hy

omit [TransCmp order] in
@[simp] theorem mem_ofList {x : α} {xs : List α} : x ∈ ofList order xs ↔ x ∈ xs := by
  have hfold : ∀ set, x ∈ xs.foldl (fun set y ↦ insert order y set) set ↔ x ∈ set ∨ x ∈ xs := by
    induction xs with
    | nil => simp
    | cons y ys ih =>
      intro set
      rw [List.foldl_cons, ih, mem_insert, List.mem_cons, or_comm (a := x = y), or_assoc]
  rw [ofList, hfold]
  simp

theorem isAscending_ofList (xs : List α) : IsAscending order (ofList order xs) :=
  List.foldlRecOn xs _ .nil fun _ h x _ ↦ isAscending_insert x h

omit [TransCmp order] in
theorem IsAscending.nodup {xs : List α} (h : IsAscending order xs) : xs.Nodup := by
  refine List.Pairwise.imp ?_ h
  rintro x _ hlt rfl
  have hself : order x x = .eq := ReflCmp.compare_self
  rw [hself] at hlt
  cases hlt

theorem IsAscending.eq_of_subset {xs ys : List α} (hxs : IsAscending order xs)
    (hys : IsAscending order ys) (hsub : xs ⊆ ys) (hsup : ys ⊆ xs) : xs = ys := by
  have hperm : xs.Perm ys :=
    (List.perm_ext_iff_of_nodup hxs.nodup hys.nodup).mpr fun _ ↦ ⟨@hsub _, @hsup _⟩
  refine hperm.eq_of_pairwise (fun x y _ _ hxy hyx ↦ ?_) hxs hys
  exact absurd hyx (OrientedCmp.not_lt_of_lt hxy)

end Ascending

section Kinds

open Std Function

theorem DatabaseKind.ctorIdx_injective : Injective DatabaseKind.ctorIdx :=
  LeftInverse.injective DatabaseKind.ofNat_ctorIdx

theorem QueueKind.ctorIdx_injective : Injective QueueKind.ctorIdx :=
  LeftInverse.injective QueueKind.ofNat_ctorIdx

theorem MetadataFlag.ctorIdx_injective : Injective MetadataFlag.ctorIdx :=
  LeftInverse.injective MetadataFlag.ofNat_ctorIdx

instance : TransOrd MetadataFlag := inferInstanceAs (TransCmp (compareOn MetadataFlag.ctorIdx))

instance : LawfulEqOrd MetadataFlag where
  eq_of_compare h := MetadataFlag.ctorIdx_injective (LawfulEqOrd.eq_of_compare h)

end Kinds

namespace Requirement

open Std

def kindIndex : Requirement → Nat
  | database kind => kind.ctorIdx
  | messageQueue kind _ => kind.ctorIdx
  | eventStream kind _ _ => kind.ctorIdx
  | objectStorage _ => 0

def names : Requirement → List String
  | database _ => []
  | messageQueue _ names | eventStream _ names _ | objectStorage names => names

def isAlternate : Requirement → Bool
  | eventStream _ _ usesAlternateProtocol => usesAlternateProtocol
  | _ => false

/-- All requirements have the same four parts, and the order compares them one after the other. -/
theorem order_eq_compareLex :
    order = compareLex (compareOn rank) (compareLex (compareOn kindIndex)
      (compareLex (compareOn names) (compareOn isAlternate))) := by
  funext a b
  cases a <;> cases b
  case database.database a b =>
    have hkind : compare a b = compare a.ctorIdx b.ctorIdx := rfl
    simp [order, compareLex, compareOn, rank, kindIndex, names, isAlternate, hkind]
  case messageQueue.messageQueue a _ b _ =>
    have hkind : compare a b = compare a.ctorIdx b.ctorIdx := rfl
    simp [order, compareLex, compareOn, rank, kindIndex, names, isAlternate, hkind]
  case eventStream.eventStream a _ _ b _ _ =>
    have hkind : compare a b = compare a.ctorIdx b.ctorIdx := rfl
    simp [order, compareLex, compareOn, rank, kindIndex, names, isAlternate, hkind]
  case objectStorage.objectStorage =>
    simp [order, compareLex, compareOn, rank, kindIndex, names, isAlternate]
  -- elsewhere the ranks decide
  all_goals rfl

theorem eq_of_parts {a b : Requirement} (hrank : a.rank = b.rank)
    (hkind : a.kindIndex = b.kindIndex) (hnames : a.names = b.names)
    (halternate : a.isAlternate = b.isAlternate) : a = b := by
  cases a <;> cases b
  case database.database =>
    obtain rfl := DatabaseKind.ctorIdx_injective hkind
    rfl
  case messageQueue.messageQueue =>
    obtain rfl := QueueKind.ctorIdx_injective hkind
    obtain rfl := hnames
    rfl
  case eventStream.eventStream a _ _ b _ _ =>
    cases a
    cases b
    obtain rfl := hnames
    obtain rfl := halternate
    rfl
  case objectStorage.objectStorage =>
    obtain rfl := hnames
    rfl
  all_goals cases hrank

instance : TransCmp order := order_eq_compareLex ▸ inferInstance

instance : LawfulEqCmp order where
  eq_of_compare {a b} h := by
    simp only [order_eq_compareLex, compareLex, compareOn, Ordering.then_eq_eq,
      LawfulEqOrd.compare_eq_iff_eq] at h
    exact eq_of_parts h.1 h.2.1 h.2.2.1 h.2.2.2

end Requirement

end Reactor
