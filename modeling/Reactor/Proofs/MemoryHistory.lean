import Reactor.Proofs.MemoryEntries
import Reactor.Proofs.PropertyLayers

namespace Reactor.Memory

open Reactor.Path

inductive Call
  | file (path : Path) (content : String)
  | directory (path : Path)
  deriving DecidableEq

def Call.path : Call → Path
  | file path _ | directory path => path

def call (m : Memory) : Call → Memory
  | .file path content => m.addFile path content
  | .directory path => m.addDirectory path

def afterCalls (root : Path) (calls : List Call) : Memory := calls.foldl call (ofRoot root)

section Held

variable (root : Path) (calls : List Call) {place : Path}

def Call.contentAt? (place : Path) : Call → Option String
  | file path content =>
    if place.components = (root.join path).components then some content else none
  | directory _ => none

def lastContent? (place : Path) : Option String :=
  calls.reverse.findSome? (Call.contentAt? root place)

/-- The place is the root, that of a call, or above one of these. -/
def Named (place : Path) : Prop :=
  place.components <+: root.components ∨
    ∃ c ∈ calls, place.components <+: (root.join c.path).components

instance (place : Path) : Decidable (Named root calls place) :=
  inferInstanceAs (Decidable (_ ∨ _))

def held? (place : Path) : Option MemoryEntry :=
  ((lastContent? root calls place).map .file).or
    (if Named root calls place then some .directory else none)

variable {root calls}

theorem lastContent?_append_singleton (c : Call) (place : Path) :
    lastContent? root (calls ++ [c]) place =
      (c.contentAt? root place).or (lastContent? root calls place) := by
  rw [lastContent?, List.reverse_append, List.findSome?_append, lastContent?]
  simp

theorem named_append_singleton (c : Call) :
    Named root (calls ++ [c]) place ↔
      Named root calls place ∨ place.components <+: (root.join c.path).components := by
  simp [Named, or_and_right, exists_or, or_assoc]

theorem held?_append_singleton (c : Call) (place : Path) :
    held? root (calls ++ [c]) place =
      ((c.contentAt? root place).map .file).or ((held? root calls place).or
        (if place.components <+: (root.join c.path).components then some .directory
          else none)) := by
  rw [held?, lastContent?_append_singleton, held?]
  simp only [named_append_singleton, Option.map_or, Option.or_assoc]
  congr 2
  by_cases hnamed : Named root calls place <;> simp [hnamed]

structure Reflects (root : Path) (calls : List Call) (m : Memory) : Prop where
  root_eq : m.root = root
  tidy : Tidy m.entries
  find_eq : ∀ place : Path, place.isAbsolute = true →
    find place m.entries = held? root calls place

theorem reflects_ofRoot (hroot : root.isAbsolute = true) : Reflects root [] (ofRoot root) where
  root_eq := rfl
  tidy := Tidy.ensure ⟨List.nodup_nil, List.forall_mem_nil _⟩ (isAbsolute_join hroot)
  find_eq place hplace := by
    have hself : (⟨root, []⟩ : Memory).place root = root := join_of_absolute root hroot
    have hnone : find place [] = none := rfl
    simp only [ofRoot, find_addDirectory (m := ⟨root, []⟩) hroot hplace, hself, hnone]
    simp [held?, lastContent?, Named]

theorem Reflects.call {m : Memory} (h : Reflects root calls m) (hroot : root.isAbsolute = true)
    (c : Call) : Reflects root (calls ++ [c]) (m.call c) := by
  have hm : m.root.isAbsolute = true := h.root_eq ▸ hroot
  refine ⟨?_, ?_, fun place hplace ↦ ?_⟩
  · cases c <;> exact h.root_eq
  · cases c with
    | file path content => exact h.tidy.addFile hm path content
    | directory path => exact h.tidy.addDirectory hm path
  · rw [held?_append_singleton, ← h.find_eq place hplace, ← h.root_eq]
    cases c with
    | directory path => exact find_addDirectory hm hplace path
    | file path content =>
      rw [Memory.call, find_addFile hm hplace, Call.contentAt?, Memory.place]
      split <;> rfl

theorem reflects_afterCalls (hroot : root.isAbsolute = true) (calls : List Call) :
    Reflects root calls (afterCalls root calls) := by
  induction calls using List.reverseRecOn with
  | nil => exact reflects_ofRoot hroot
  | append_singleton calls c ih =>
    rw [afterCalls, List.foldl_append]
    exact ih.call hroot c

/-- The last call that writes a file where `path` leads gives it this content. -/
def LastWrites (root : Path) (calls : List Call) (path : Path) (content : String) : Prop :=
  ∃ earlier other later, calls = earlier ++ .file other content :: later ∧
    (root.join other).Same (root.join path) ∧
    ∀ other content, .file other content ∈ later → ¬ (root.join other).Same (root.join path)

theorem contentAt?_eq_some_iff {c : Call} {content : String} :
    c.contentAt? root place = some content ↔
      ∃ other, c = .file other content ∧ (root.join other).Same place := by
  cases c with
  | directory path => simp [Call.contentAt?]
  | file path written =>
    rw [Call.contentAt?, Option.ite_none_right_eq_some, Option.some.injEq]
    constructor
    · rintro ⟨hsame, rfl⟩
      exact ⟨path, rfl, hsame.symm⟩
    · rintro ⟨other, heq, hsame⟩
      cases heq
      exact ⟨hsame.symm, rfl⟩

theorem lastContent?_eq_some_iff {path : Path} {content : String} :
    lastContent? root calls (root.join path) = some content ↔
      LastWrites root calls path content := by
  rw [lastContent?, findSome?_reverse_eq_some_iff]
  simp only [contentAt?_eq_some_iff, Option.eq_none_iff_forall_ne_some, ne_eq]
  constructor
  · rintro ⟨earlier, _, later, hcalls, ⟨other, rfl, hsame⟩, hlater⟩
    refine ⟨earlier, other, later, hcalls, hsame, ?_⟩
    intro other' content' hmem hsame'
    exact hlater _ hmem content' ⟨other', rfl, hsame'⟩
  · rintro ⟨earlier, other, later, hcalls, hsame, hlater⟩
    refine ⟨earlier, _, later, hcalls, ⟨other, rfl, hsame⟩, ?_⟩
    rintro c hmem content' ⟨other', rfl, hsame'⟩
    exact hlater other' content' hmem hsame'

theorem held?_eq_file_iff {content : String} :
    held? root calls place = some (.file content) ↔
      lastContent? root calls place = some content := by
  rw [held?]
  cases lastContent? root calls place with
  | none => by_cases hnamed : Named root calls place <;> simp [hnamed]
  | some written => simp

theorem held?_isSome_iff : (held? root calls place).isSome = true ↔ Named root calls place := by
  by_cases hnamed : Named root calls place
  · simp [held?, hnamed]
  · have hnone : lastContent? root calls place = none := by
      rw [Option.eq_none_iff_forall_ne_some]
      intro content hcontent
      obtain ⟨earlier, c, later, rfl, hc, -⟩ := findSome?_reverse_eq_some_iff.mp hcontent
      obtain ⟨other, rfl, hsame⟩ := contentAt?_eq_some_iff.mp hc
      refine hnamed (.inr ⟨_, List.mem_append_right _ List.mem_cons_self, ?_⟩)
      exact hsame ▸ List.prefix_rfl
    simp [held?, hnone, hnamed]

end Held

section Views

variable {root : Path} {calls : List Call} {m : Memory} {p q : Path}

theorem Reflects.isAbsolute_place (h : Reflects root calls m) (hroot : root.isAbsolute = true)
    (p : Path) : (m.place p).isAbsolute = true :=
  isAbsolute_join (h.root_eq ▸ hroot)

theorem Reflects.entry?_eq (h : Reflects root calls m) (hroot : root.isAbsolute = true) (p : Path) :
    m.entry? p = held? root calls (root.join p) := by
  calc m.entry? p
    _ = find (m.place p) m.entries := rfl
    _ = held? root calls (m.place p) := h.find_eq _ (h.isAbsolute_place hroot p)
    _ = held? root calls (root.join p) := by rw [place, h.root_eq]

theorem Reflects.read_eq_ok_iff (h : Reflects root calls m) (hroot : root.isAbsolute = true)
    {content : String} : m.read p = .ok content ↔ LastWrites root calls p content := by
  rw [Memory.read_eq_ok_iff, h.entry?_eq hroot, held?_eq_file_iff, lastContent?_eq_some_iff]

theorem Reflects.exists_of_prefix (h : Reflects root calls m) (hroot : root.isAbsolute = true)
    (hp : m.view.exists? p = true) (habove : (m.place q).components <+: (m.place p).components) :
    m.view.exists? q = true := by
  simp only [view, h.entry?_eq hroot, held?_isSome_iff] at hp ⊢
  rw [place, place, h.root_eq] at habove
  rcases hp with hroot' | ⟨c, hc, hnamed⟩
  · exact .inl (habove.trans hroot')
  · exact .inr ⟨c, hc, habove.trans hnamed⟩

end Views

/-- After any calls a file is what can be read, and it reads as the last call that writes it says.
With a place all places above it exist. A directory, and nothing else, can be listed, and it lists
each of its children once, with its kind. -/
theorem afterCalls_exact (root : Path) (hroot : root.isAbsolute = true) (calls : List Call) :
    let m := afterCalls root calls
    (∀ p, m.view.isFile p = true ↔ ∃ content, m.read p = .ok content) ∧
    (∀ p content, m.read p = .ok content ↔ LastWrites root calls p content) ∧
    (∀ p q, m.view.exists? p = true → (m.place q).components <+: (m.place p).components →
      m.view.exists? q = true) ∧
    (∀ p, (∃ listing, m.list p = .ok listing) ↔ m.view.isDirectory p = true) ∧
    (∀ p listing, m.list p = .ok listing →
      (∀ e ∈ listing, m.place e.path = e.path) ∧ (listing.map (·.path.components)).Nodup ∧
      ∀ q kind, (∃ e ∈ listing, e.path.Same (m.place q) ∧ e.kind = kind) ↔
        (∃ parent, (m.place q).parent? = some parent ∧ parent.Same (m.place p)) ∧
          (m.entry? q).map MemoryEntry.kind = some kind) := by
  intro m
  have h : Reflects root calls m := reflects_afterCalls hroot calls
  refine ⟨fun p ↦ isFile_iff_exists_read, fun p content ↦ h.read_eq_ok_iff hroot,
    fun p q hp habove ↦ h.exists_of_prefix hroot hp habove, fun p ↦ exists_list_iff, ?_⟩
  intro p listing hlist
  exact ⟨fun e he ↦ join_of_absolute _ (h.tidy.isAbsolute_of_mem_list hlist he),
    h.tidy.nodup_list hlist,
    fun q kind ↦ h.tidy.mem_list_iff (h.isAbsolute_place hroot q) hlist kind⟩

section Layered

def layeredCalls : List Call :=
  [.file ⟨"a"⟩ "1", .file ⟨"a/b"⟩ "2", .file ⟨"./a/"⟩ "3", .directory ⟨"a/c"⟩]

/-- What stands below a file leaves the file what it is. -/
theorem layered_reads :
    (⟨"/r"⟩ : Path).isAbsolute = true ∧
      (afterCalls ⟨"/r"⟩ layeredCalls).read ⟨"a"⟩ = .ok "3" ∧
      (¬ ∃ listing, (afterCalls ⟨"/r"⟩ layeredCalls).list ⟨"a"⟩ = .ok listing) ∧
      (afterCalls ⟨"/r"⟩ layeredCalls).view.exists? ⟨"a/c"⟩ = true := by
  obtain ⟨-, hread, -, hlist, -⟩ := afterCalls_exact ⟨"/r"⟩ (by decide) layeredCalls
  have hwritten : LastWrites ⟨"/r"⟩ layeredCalls ⟨"a"⟩ "3" :=
    ⟨layeredCalls.take 2, ⟨"./a/"⟩, [.directory ⟨"a/c"⟩], rfl, by decide, by simp⟩
  refine ⟨by decide, (hread _ _).mpr hwritten, ?_, by decide +kernel⟩
  rw [hlist]
  decide +kernel

end Layered

end Reactor.Memory
