import Reactor.Inference
import Reactor.Proofs.PatternTexts
import Reactor.Proofs.TextParts

namespace Reactor

namespace DatabaseName

def HasNameSize (s : String) : Prop := 3 ≤ s.utf8ByteSize ∧ s.utf8ByteSize ≤ 63

def IsBlockChar (c : Char) : Prop := c.isLower ∨ c.isDigit

def IsBlock (block : List Char) : Prop := block ≠ [] ∧ ∀ c ∈ block, IsBlockChar c

/-- Hyphens stand between other characters only. -/
structure IsHyphenated (name : List Char) : Prop where
  chars : ∀ c ∈ name, IsBlockChar c ∨ c = '-'
  head : name.head? ≠ some '-'
  last : name.getLast? ≠ some '-'
  apart : ¬ ['-', '-'] <:+: name

def blockBytes : Text.ByteSet :=
  ⟨[('a'.toUInt8, 'z'.toUInt8), ('0'.toUInt8, '9'.toUInt8)], false⟩

def pattern : Text.Pattern := .separatedBy '-'.toUInt8 (.atLeastOne blockBytes)

section Characters

variable {c : Char} {b : UInt8}

theorem isBlockChar_iff_toNat :
    IsBlockChar c ↔ (97 ≤ c.toNat ∧ c.toNat ≤ 122) ∨ (48 ≤ c.toNat ∧ c.toNat ≤ 57) := by
  have hlower : c.isLower = (decide ('a'.val ≤ c.val) && decide (c.val ≤ 'z'.val)) := rfl
  simp [IsBlockChar, hlower, Char.isDigit, UInt32.le_iff_toNat_le]

theorem isDatabaseNameChar_iff : isDatabaseNameChar c = true ↔ IsBlockChar c := by
  rw [isBlockChar_iff_toNat]
  simp [isDatabaseNameChar, Char.isDigit, Char.le_def, UInt32.le_iff_toNat_le]

theorem IsBlockChar.toNat_lt (h : IsBlockChar c) : c.toNat < 128 := by
  rw [isBlockChar_iff_toNat] at h
  omega

theorem contains_blockBytes_iff :
    blockBytes.contains b = true ↔ IsBlockChar (Char.ofUInt8 b) := by
  have htoNat : (Char.ofUInt8 b).toNat = b.toNat := UInt8.toNat_toUInt32 b
  rw [isBlockChar_iff_toNat, htoNat]
  simp [Text.ByteSet.contains, blockBytes, UInt8.le_iff_toNat_le, Char.toUInt8]

theorem not_isBlockChar_hyphen : ¬ IsBlockChar '-' := by
  simp [isBlockChar_iff_toNat]

end Characters

section Blocks

variable {block name : List Char} {blocks : List (List Char)} {bytes : List UInt8}

theorem IsBlock.hyphen_notMem (h : IsBlock block) : '-' ∉ block :=
  fun hmem ↦ not_isBlockChar_hyphen (h.2 '-' hmem)

theorem IsBlock.map_ofUInt8 (h : IsBlock block) :
    (block.map Char.toUInt8).map Char.ofUInt8 = block := by
  have hsame : ∀ c ∈ block, (Char.ofUInt8 ∘ Char.toUInt8) c = c :=
    fun c hc ↦ Text.ofUInt8_toUInt8 (h.2 c hc).toNat_lt
  rw [List.map_map, List.map_congr_left hsame, List.map_id']

theorem accepts_atLeastOne_blockBytes_iff :
    (Text.Pattern.atLeastOne blockBytes).Accepts bytes ↔ IsBlock (bytes.map Char.ofUInt8) := by
  simp only [Text.Pattern.accepts_atLeastOne_iff, contains_blockBytes_iff, IsBlock, ne_eq,
    List.map_eq_nil_iff, List.forall_mem_map]

theorem toList_toUTF8_of_blocks {s : String} (hblocks : ∀ block ∈ blocks, IsBlock block)
    (hs : s.toList = ['-'].intercalate blocks) :
    s.toUTF8.toList = ['-'.toUInt8].intercalate (blocks.map (·.map Char.toUInt8)) := by
  rw [Text.toList_toUTF8, hs, Text.flatMap_intercalate]
  congr 1
  refine List.map_congr_left fun block hblock ↦ Text.flatMap_utf8EncodeChar_of_ascii ?_
  exact fun c hc ↦ ((hblocks block hblock).2 c hc).toNat_lt

theorem accepts_pattern_iff {s : String} :
    pattern.Accepts s.toUTF8.toList ↔ ∀ block ∈ s.toList.splitOn '-', IsBlock block := by
  rw [pattern, Text.Pattern.accepts_separatedBy_iff]
  simp only [accepts_atLeastOne_blockBytes_iff]
  constructor
  · rintro ⟨parts, hne, hparts, hs⟩
    let blocks := parts.map (·.map Char.ofUInt8)
    have hblocks : ∀ block ∈ blocks, IsBlock block := List.forall_mem_map.mpr hparts
    have hback : blocks.map (·.map Char.toUInt8) = parts := by
      simp [blocks, Function.comp_def, Text.toUInt8_ofUInt8]
    -- texts of the same bytes are the same
    have hname : s = String.ofList (['-'].intercalate blocks) := by
      apply Text.eq_of_toUTF8
      rw [hs, toList_toUTF8_of_blocks hblocks String.toList_ofList, hback]
    have hsplit : s.toList.splitOn '-' = blocks := by
      rw [hname, String.toList_ofList]
      exact List.splitOn_intercalate '-' (fun block hblock ↦ (hblocks block hblock).hyphen_notMem)
        (by simpa [blocks] using hne)
    rwa [hsplit]
  · intro hblocks
    have hs : s.toList = ['-'].intercalate (s.toList.splitOn '-') :=
      (List.intercalate_splitOn '-').symm
    refine ⟨_, by simp, ?_, toList_toUTF8_of_blocks hblocks hs⟩
    intro part hpart
    obtain ⟨block, hblock, rfl⟩ := List.mem_map.mp hpart
    rw [(hblocks block hblock).map_ofUInt8]
    exact hblocks block hblock

theorem forall_ne_nil_iff :
    (∀ block ∈ name.splitOn '-', block ≠ []) ↔
      name ≠ [] ∧ name.head? ≠ some '-' ∧ name.getLast? ≠ some '-' ∧ ¬ ['-', '-'] <:+: name := by
  have hmem : (∀ block ∈ name.splitOn '-', block ≠ []) ↔ [] ∉ name.splitOn '-' :=
    ⟨fun h hnil ↦ h [] hnil rfl, fun h block hblock hnil ↦ h (hnil ▸ hblock)⟩
  rw [hmem, ← Text.cut_eq_splitOn, Text.nil_mem_cut_iff]
  simp only [not_or, ne_eq]

theorem forall_isBlockChar_iff :
    (∀ block ∈ name.splitOn '-', ∀ c ∈ block, IsBlockChar c) ↔
      ∀ c ∈ name, IsBlockChar c ∨ c = '-' := by
  rw [← List.forall_mem_flatten, ← Text.cut_eq_splitOn, Text.flatten_cut]
  simp [or_iff_not_imp_right]

theorem forall_isBlock_iff :
    (∀ block ∈ name.splitOn '-', IsBlock block) ↔ name ≠ [] ∧ IsHyphenated name := by
  simp only [IsBlock, forall_and]
  rw [forall_ne_nil_iff, forall_isBlockChar_iff]
  constructor
  · rintro ⟨⟨hne, hhead, hlast, hapart⟩, hchars⟩
    exact ⟨hne, hchars, hhead, hlast, hapart⟩
  · rintro ⟨hne, hchars, hhead, hlast, hapart⟩
    exact ⟨⟨hne, hhead, hlast, hapart⟩, hchars⟩

theorem isDatabaseName_eq_true_iff :
    isDatabaseName name = true ↔
      (3 ≤ name.length ∧ name.length ≤ 63) ∧ ∀ block ∈ name.splitOn '-', IsBlock block := by
  simp only [isDatabaseName, Text.cut_eq_splitOn, Bool.and_eq_true, decide_eq_true_eq,
    List.all_eq_true, Bool.not_eq_true', List.isEmpty_eq_false_iff, isDatabaseNameChar_iff, IsBlock]

end Blocks

section Size

variable {s : String}

theorem HasNameSize.toList_ne_nil (h : HasNameSize s) : s.toList ≠ [] := by
  intro hnil
  obtain rfl : s = "" := String.toList_eq_nil_iff.mp hnil
  exact absurd h.1 (by decide)

theorem IsHyphenated.utf8ByteSize (h : IsHyphenated s.toList) :
    s.utf8ByteSize = s.toList.length := by
  have hascii : ∀ c ∈ s.toList, c.toNat < 128 := by
    intro c hc
    rcases h.chars c hc with hblock | rfl
    · exact hblock.toNat_lt
    · decide
  rw [← Text.length_toUTF8, Text.toList_toUTF8, Text.flatMap_utf8EncodeChar_of_ascii hascii,
    List.length_map]

end Size

/-- A name is known by its characters and their neighbours, by its blocks, and by its pattern. -/
theorem isDatabaseName_exact (s : String) :
    (isDatabaseName s.toList = true ↔ HasNameSize s ∧ IsHyphenated s.toList) ∧
    (isDatabaseName s.toList = true ↔
      HasNameSize s ∧ ∀ block ∈ s.toList.splitOn '-', IsBlock block) ∧
    (isDatabaseName s.toList = true ↔ HasNameSize s ∧ pattern.Accepts s.toUTF8.toList) ∧
    isDatabaseName s.toList =
      (3 ≤ s.utf8ByteSize && s.utf8ByteSize ≤ 63 && pattern.accepts s.toUTF8.toList) := by
  have hblocks : isDatabaseName s.toList = true ↔
      HasNameSize s ∧ ∀ block ∈ s.toList.splitOn '-', IsBlock block := by
    rw [isDatabaseName_eq_true_iff, HasNameSize]
    refine and_congr_left fun h ↦ ?_
    rw [(forall_isBlock_iff.mp h).2.utf8ByteSize]
  have hpattern : isDatabaseName s.toList = true ↔
      HasNameSize s ∧ pattern.Accepts s.toUTF8.toList := by
    rw [hblocks, accepts_pattern_iff]
  refine ⟨?_, hblocks, hpattern, ?_⟩
  · rw [hblocks, forall_isBlock_iff]
    exact and_congr_right fun hsize ↦ and_iff_right hsize.toList_ne_nil
  · rw [Bool.eq_iff_iff, hpattern, ← Text.Pattern.accepts_iff]
    simp only [HasNameSize, Bool.and_eq_true, decide_eq_true_eq]

end DatabaseName

end Reactor
