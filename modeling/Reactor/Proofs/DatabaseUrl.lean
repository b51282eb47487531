import Mathlib.Data.List.TakeWhile
import Reactor.Inference
import Reactor.Proofs.TextParts

namespace Reactor

namespace DatabaseUrl

def Addresses (url : String) (kind : DatabaseKind) : Prop :=
  (kind = .postgres ∧ "jdbc:postgresql".toList <+: url.toList) ∨
    (kind = .mySql ∧ "jdbc:mysql".toList <+: url.toList)

def beforeQuery (url : List Char) : List Char := url.takeWhile (· ≠ '?')

def query (url : List Char) : List Char := url.dropWhile (· ≠ '?')

def IsLastSegment (segment text : List Char) : Prop :=
  ∃ before, text = before ++ '/' :: segment ∧ '/' ∉ segment

/-- The last segment before the query string is the name. -/
def Names (url : String) (kind : DatabaseKind) (name : String) : Prop :=
  Addresses url kind ∧ IsLastSegment name.toList (beforeQuery url.toList) ∧
    isDatabaseName name.toList = true

theorem databaseKindOfUrl?_eq_some_iff {url : String} {kind : DatabaseKind} :
    databaseKindOfUrl? url = some kind ↔ Addresses url kind := by
  -- neither beginning is one of the other
  have hapart : "jdbc:postgresql".toList <+: url.toList → ¬ "jdbc:mysql".toList <+: url.toList := by
    intro hpostgres hmySql
    have hboth : "jdbc:mysql".toList <+: "jdbc:postgresql".toList :=
      List.prefix_of_prefix_length_le hmySql hpostgres (by decide)
    exact absurd hboth (by decide)
  rw [databaseKindOfUrl?, Addresses]
  simp only [List.isPrefixOf_iff_prefix]
  split
  · next hpostgres => grind
  · next hpostgres => split <;> grind

section Segments

variable {segment other before after url : List Char}

theorem IsLastSegment.eq (h : IsLastSegment segment url) (h' : IsLastSegment other url) :
    segment = other := by
  obtain ⟨before, rfl, hsegment⟩ := h
  obtain ⟨before', heq, hother⟩ := h'
  rw [← Text.getLastD_cut hsegment before, heq, Text.getLastD_cut hother before']

theorem exists_isLastSegment (h : '/' ∈ url) : ∃ segment, IsLastSegment segment url := by
  obtain ⟨before, segment, heq, hsegment⟩ := Text.exists_last_separator h
  exact ⟨segment, before, heq, hsegment⟩

theorem isLastSegment_append_of_mem (h : '/' ∈ after) :
    IsLastSegment segment (before ++ after) ↔ IsLastSegment segment after := by
  obtain ⟨last, front, rfl, hlast⟩ := exists_isLastSegment h
  have hbehind : IsLastSegment last (front ++ '/' :: last) := ⟨front, rfl, hlast⟩
  have hwhole : IsLastSegment last (before ++ (front ++ '/' :: last)) :=
    ⟨before ++ front, (List.append_assoc ..).symm, hlast⟩
  constructor
  · intro hsegment
    exact hsegment.eq hwhole ▸ hbehind
  · intro hsegment
    exact hsegment.eq hbehind ▸ hwhole

theorem isLastSegment_append_of_notMem (h : '/' ∉ after) :
    IsLastSegment segment (before ++ after) ↔
      ∃ last, IsLastSegment last before ∧ segment = last ++ after := by
  constructor
  · rintro hsegment
    have hmem : '/' ∈ before := by
      obtain ⟨front, heq, -⟩ := hsegment
      have hboth : '/' ∈ before ++ after := heq ▸ List.mem_append_right front List.mem_cons_self
      exact (List.mem_append.mp hboth).resolve_right h
    obtain ⟨last, front, rfl, hlast⟩ := exists_isLastSegment hmem
    refine ⟨last, ⟨front, rfl, hlast⟩, hsegment.eq ⟨front, List.append_assoc .., ?_⟩⟩
    simp [hlast, h]
  · rintro ⟨last, ⟨front, rfl, hlast⟩, rfl⟩
    exact ⟨front, List.append_assoc .., by simp [hlast, h]⟩

theorem databasePart?_eq_some_iff {name : List Char} :
    databasePart? url = some name ↔
      ∃ segment, IsLastSegment segment url ∧ name = beforeQuery segment := by
  rw [databasePart?, Option.ite_none_right_eq_some, List.contains_iff_mem, Option.some.injEq]
  constructor
  · rintro ⟨hmem, rfl⟩
    obtain ⟨segment, front, rfl, hsegment⟩ := exists_isLastSegment hmem
    exact ⟨segment, ⟨front, rfl, hsegment⟩, by rw [Text.getLastD_cut hsegment, beforeQuery]⟩
  · rintro ⟨segment, ⟨front, rfl, hsegment⟩, rfl⟩
    exact ⟨by simp, by rw [Text.getLastD_cut hsegment, beforeQuery]⟩

theorem beforeQuery_append (h : beforeQuery after = []) (before : List Char) :
    beforeQuery (before ++ after) = beforeQuery before := by
  rw [beforeQuery] at h
  rw [beforeQuery, List.takeWhile_append, h, List.append_nil]
  split
  · next hall =>
    exact (List.takeWhile_prefix _).eq_of_length hall |>.symm
  · rfl

theorem beforeQuery_query (url : List Char) : beforeQuery (query url) = [] := by
  cases hquery : query url with
  | nil => rfl
  | cons c rest =>
    have hhead := List.head?_dropWhile_not (· ≠ '?') url
    rw [query] at hquery
    rw [hquery] at hhead
    obtain rfl : c = '?' := by simpa using hhead
    simp [beforeQuery]

theorem beforeQuery_segment (h : IsLastSegment segment (beforeQuery url)) :
    beforeQuery segment = segment := by
  obtain ⟨front, heq, -⟩ := h
  rw [beforeQuery, List.takeWhile_eq_self_iff]
  intro c hc
  have hmem : c ∈ beforeQuery url := heq ▸ List.mem_append_right front (List.mem_cons_of_mem _ hc)
  rw [beforeQuery] at hmem
  simpa using List.mem_takeWhile_imp hmem

end Segments

/-- The segment that gives the name: the last one of the query string if that has a slash, and else
the last one before it. -/
def IsDecidingSegment (segment url : List Char) : Prop :=
  if '/' ∈ query url then IsLastSegment segment (query url)
  else IsLastSegment segment (beforeQuery url)

theorem databasePart?_eq_some_iff_deciding {url name : List Char} :
    databasePart? url = some name ↔
      ∃ segment, IsDecidingSegment segment url ∧ name = beforeQuery segment := by
  have hsplit : beforeQuery url ++ query url = url := List.takeWhile_append_dropWhile
  rw [databasePart?_eq_some_iff]
  by_cases hslash : '/' ∈ query url
  · have hdeciding : ∀ segment, IsLastSegment segment url ↔ IsDecidingSegment segment url := by
      intro segment
      rw [IsDecidingSegment, if_pos hslash, ← isLastSegment_append_of_mem hslash, hsplit]
    simp only [hdeciding]
  · have hsegments : ∀ segment, IsLastSegment segment url ↔
        ∃ last, IsLastSegment last (beforeQuery url) ∧ segment = last ++ query url := by
      intro segment
      rw [← isLastSegment_append_of_notMem hslash, hsplit]
    simp only [IsDecidingSegment, if_neg hslash, hsegments]
    constructor
    · rintro ⟨_, ⟨last, hlast, rfl⟩, rfl⟩
      exact ⟨last, hlast, beforeQuery_append (beforeQuery_query url) last⟩
    · rintro ⟨last, hlast, rfl⟩
      exact ⟨_, ⟨last, hlast, rfl⟩, (beforeQuery_append (beforeQuery_query url) last).symm⟩

theorem databaseOfUrl?_eq_some_iff {url : String} {kind : DatabaseKind} {name : String} :
    databaseOfUrl? url = some (kind, name) ↔
      Addresses url kind ∧ isDatabaseName name.toList = true ∧
        databasePart? url.toList = some name.toList := by
  simp only [databaseOfUrl?, Option.bind_eq_bind, Option.bind_eq_some_iff,
    databaseKindOfUrl?_eq_some_iff, Option.ite_none_right_eq_some, Option.some.injEq,
    Prod.mk.injEq]
  constructor
  · rintro ⟨_, haddresses, part, hpart, hname, rfl, rfl⟩
    rw [String.toList_ofList]
    exact ⟨haddresses, hname, hpart⟩
  · rintro ⟨haddresses, hname, hpart⟩
    exact ⟨kind, haddresses, _, hpart, hname, rfl, String.ofList_toList⟩

section QueryStrings

variable {url text : String} {kind : DatabaseKind}

theorem prefix_append_query_iff {start : List Char} (h : '?' ∉ start) (url text : List Char) :
    start <+: url ++ '?' :: text ↔ start <+: url := by
  constructor
  · intro hstart
    rcases List.prefix_or_prefix_of_prefix hstart (List.prefix_append url _) with hurl | ⟨rest, rfl⟩
    · exact hurl
    · rw [List.prefix_append_right_inj] at hstart
      cases rest with
      | nil => simp
      | cons c rest =>
        obtain ⟨rfl, -⟩ := List.cons_prefix_cons.mp hstart
        simp at h
  · intro hstart
    exact hstart.trans (List.prefix_append url _)

theorem addresses_append_query : Addresses (url ++ "?" ++ text) kind ↔ Addresses url kind := by
  have htoList : (url ++ "?" ++ text).toList = url.toList ++ '?' :: text.toList := by simp
  rw [Addresses, Addresses, htoList, prefix_append_query_iff (by decide),
    prefix_append_query_iff (by decide)]

theorem databasePart?_append_query {url text : List Char} (h : '/' ∉ text) :
    databasePart? (url ++ '?' :: text) = databasePart? url := by
  have hquery : beforeQuery ('?' :: text) = [] := by simp [beforeQuery]
  have hslash : '/' ∉ '?' :: text := by simp [h]
  ext name
  simp only [databasePart?_eq_some_iff, isLastSegment_append_of_notMem hslash]
  constructor
  · rintro ⟨_, ⟨last, hlast, rfl⟩, rfl⟩
    exact ⟨last, hlast, beforeQuery_append hquery last⟩
  · rintro ⟨last, hlast, rfl⟩
    exact ⟨_, ⟨last, hlast, rfl⟩, (beforeQuery_append hquery last).symm⟩

end QueryStrings

/-- The name is cut out of one segment. That is the one before the query string, and the query
string makes no difference, as long as it has no slash. -/
theorem databaseOfUrl?_exact (url : String) (kind : DatabaseKind) (name : String) :
    (databaseOfUrl? url = some (kind, name) ↔
      Addresses url kind ∧ isDatabaseName name.toList = true ∧
        ∃ segment, IsDecidingSegment segment url.toList ∧ name.toList = beforeQuery segment) ∧
    ('/' ∉ query url.toList →
      (databaseOfUrl? url = some (kind, name) ↔ Names url kind name)) ∧
    (∀ text : String, '/' ∉ text.toList →
      databaseOfUrl? (url ++ "?" ++ text) = databaseOfUrl? url) := by
  have hexact : databaseOfUrl? url = some (kind, name) ↔
      Addresses url kind ∧ isDatabaseName name.toList = true ∧
        ∃ segment, IsDecidingSegment segment url.toList ∧ name.toList = beforeQuery segment := by
    rw [databaseOfUrl?_eq_some_iff, databasePart?_eq_some_iff_deciding]
  refine ⟨hexact, ?_, ?_⟩
  · intro hslash
    have hsegment : (∃ segment, IsDecidingSegment segment url.toList ∧
        name.toList = beforeQuery segment) ↔
          IsLastSegment name.toList (beforeQuery url.toList) := by
      simp only [IsDecidingSegment, if_neg hslash]
      constructor
      · rintro ⟨segment, hsegment, hname⟩
        rwa [hname, beforeQuery_segment hsegment]
      · intro hname
        exact ⟨name.toList, hname, (beforeQuery_segment hname).symm⟩
    rw [hexact, hsegment, Names, and_comm (a := isDatabaseName name.toList = true)]
  · intro text htext
    have htoList : (url ++ "?" ++ text).toList = url.toList ++ '?' :: text.toList := by simp
    ext found
    obtain ⟨kind', name'⟩ := found
    rw [databaseOfUrl?_eq_some_iff, databaseOfUrl?_eq_some_iff, addresses_append_query, htoList,
      databasePart?_append_query htext]

def slashedUrl : String := "jdbc:mysql://h/abc?path=/etc/xyz"

/-- The last segment of the query string is taken for the name. -/
theorem slashed_misread :
    Names slashedUrl .mySql "abc" ∧ databaseOfUrl? slashedUrl = some (.mySql, "xyz") := by
  have hsegment : IsLastSegment "abc".toList (beforeQuery slashedUrl.toList) :=
    ⟨"jdbc:mysql://h".toList, by decide, by decide⟩
  exact ⟨⟨.inr ⟨rfl, by decide⟩, hsegment, by decide⟩, by decide⟩

end DatabaseUrl

end Reactor
