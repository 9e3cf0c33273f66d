/-
  File:      ModalRs/Sandbox/ModeGrammar.lean
  Subject:   The strings that a file mode may be.

  * `ModeGrammar`: the strings, with no word on how they are checked.
  * `hasInvalidChar_iff`, `hasDuplicate_iff`, `modeCount_iff`: what each filter of the parser keeps.
  * `parse_grammar`, `grammar_of_parse`: the filters in a row are the grammar.
  * `fileMode_grammar`: the parser against the grammar, and `open_` for any other string.
-/
import Mathlib.Data.List.Nodup
import ModalRs.Sandbox.Filesystem

namespace ModalRs

open ModalRs.Lib

/-! ## 1. The grammar -/

/-- The characters of a mode. -/
def modeChars : List Char := ['r', 'w', 'a', 'x', 'b', '+']

/-- The create/read/write/append modes. -/
def accessModes : List Char := ['r', 'w', 'a', 'x']

/-- A string that is a file mode. -/
structure ModeGrammar (mode : String) : Prop where
  chars : ∀ c ∈ mode.toList, c ∈ modeChars
  once : mode.toList.Nodup
  access : ∃! c, c ∈ mode.toList ∧ c ∈ accessModes

/-- What a mode says about the file. -/
structure ModeFlags (mode : String) (flags : FileMode) : Prop where
  readable : flags.readable ↔ 'r' ∈ mode.toList ∨ '+' ∈ mode.toList
  writable : flags.writable ↔
    'w' ∈ mode.toList ∨ 'a' ∈ mode.toList ∨ 'x' ∈ mode.toList ∨ '+' ∈ mode.toList
  appended : flags.appended ↔ 'a' ∈ mode.toList
  binary : flags.binary ↔ 'b' ∈ mode.toList

/-! ## 2. The filters of the parser -/

namespace FileMode

variable {mode : List Char}

theorem hasInvalidChar_iff : hasInvalidChar mode = false ↔ ∀ c ∈ mode, c ∈ modeChars := by
  have hset : "rwaxb+".toList = modeChars := rfl
  rw [hasInvalidChar, hset, List.any_eq_false]
  refine forall₂_congr fun c _ => ?_
  rw [Bool.not_eq_true', Bool.not_eq_false, List.contains_iff_mem]

/-- **The loop with its memory**: nothing occurs twice, and nothing was seen before. -/
theorem hasDuplicate_iff (seen : List Char) :
    hasDuplicate seen mode = false ↔ mode.Nodup ∧ ∀ c ∈ mode, c ∉ seen := by
  induction mode generalizing seen with
  | nil => exact ⟨fun _ => ⟨List.nodup_nil, nofun⟩, fun _ => rfl⟩
  | cons c mode ih =>
    rw [hasDuplicate, Bool.or_eq_false_iff, ih, List.nodup_cons, List.forall_mem_cons,
      ← Bool.not_eq_true, List.contains_iff_mem]
    constructor
    · rintro ⟨hc, hnodup, hseen⟩
      exact ⟨⟨fun hmem => hseen c hmem List.mem_cons_self, hnodup⟩, hc,
        fun d hd hmem => hseen d hd (List.mem_cons_of_mem c hmem)⟩
    · rintro ⟨⟨hfresh, hnodup⟩, hc, hseen⟩
      refine ⟨hc, hnodup, fun d hd hmem => ?_⟩
      rcases List.mem_cons.mp hmem with rfl | hmem
      · exact hfresh hd
      · exact hseen d hd hmem

/-- One of them is named, if none is named twice. -/
theorem modeCount_iff (h : mode.Nodup) :
    modeCount mode = 1 ↔ ∃! c, c ∈ mode ∧ c ∈ accessModes := by
  have hmem : ∀ c, c ∈ mode.filter "rwax".toList.contains ↔ c ∈ mode ∧ c ∈ accessModes := by
    intro c
    have hset : "rwax".toList = accessModes := rfl
    rw [hset, List.mem_filter, List.contains_iff_mem]
  rw [modeCount, List.length_eq_one_iff]
  constructor
  · rintro ⟨c, hc⟩
    rw [hc] at hmem
    refine ⟨c, (hmem c).mp List.mem_cons_self, fun d hd => ?_⟩
    exact List.mem_singleton.mp ((hmem d).mpr hd)
  · rintro ⟨c, hc, hunique⟩
    refine ⟨c, Classical.byContradiction fun hne => ?_⟩
    rcases ((h.filter _).ne_singleton_iff c).mp hne with hnil | ⟨d, hd, hdc⟩
    · have hin := (hmem c).mpr hc
      rw [hnil] at hin
      exact List.not_mem_nil hin
    · exact hdc (hunique d ((hmem d).mp hd))

/-! ## 3. The parser -/

/-- **A string of the grammar** passes every filter. -/
theorem parse_grammar {mode : String} (h : ModeGrammar mode) :
    ∃ flags, parse mode = .ok flags ∧ ModeFlags mode flags := by
  have hcount := (modeCount_iff h.once).mpr h.access
  have hempty : mode.toList.isEmpty = false := by
    obtain ⟨c, ⟨hc, -⟩, -⟩ := h.access
    rw [List.isEmpty_eq_false_iff]
    exact List.ne_nil_of_mem hc
  have hchars := hasInvalidChar_iff.mpr h.chars
  have honce := (hasDuplicate_iff []).mpr ⟨h.once, fun _ _ => List.not_mem_nil⟩
  have hnonzero : ¬ modeCount mode.toList = 0 := by omega
  have hone : ¬ 1 < modeCount mode.toList := by omega
  simp only [parse]
  rw [hempty, hchars, honce, if_neg hnonzero, if_neg hone]
  refine ⟨_, rfl, ⟨?_, ?_, ?_, ?_⟩⟩
  · rw [Bool.or_eq_true, List.contains_iff_mem, List.contains_iff_mem]
  · simp only [Bool.or_eq_true, List.contains_iff_mem, or_assoc]
  · rw [List.contains_iff_mem]
  · rw [List.contains_iff_mem]

/-- **A string that is accepted** is in the grammar: each filter gives one of its conditions. -/
theorem grammar_of_parse {mode : String} {flags : FileMode} (h : parse mode = .ok flags) :
    ModeGrammar mode := by
  simp only [parse] at h
  split_ifs at h with _ hchars honce hnonzero hone
  have hnodup := ((hasDuplicate_iff []).mp (Bool.eq_false_iff.mpr honce)).1
  have hcount : modeCount mode.toList = 1 := by omega
  exact ⟨hasInvalidChar_iff.mp (Bool.eq_false_iff.mpr hchars), hnodup,
    (modeCount_iff hnodup).mp hcount⟩

end FileMode

/-- For a string that is not a file mode nothing is sent. -/
theorem open_refused {mode : String} (h : ¬ ModeGrammar mode) (taskId path : String) :
    ∃ e, (SandboxFilesystem.open_ taskId path mode).run = .done (.error e) := by
  cases hparse : FileMode.parse mode with
  | ok flags => exact absurd (FileMode.grammar_of_parse hparse) h
  | error e =>
    refine ⟨e, ?_⟩
    rw [SandboxFilesystem.open_, hparse]
    rfl

/-- **File modes**: the parser accepts the strings of the grammar and no others, with the flags
    their characters name; opened with any other string, a file is refused before an RPC. -/
theorem fileMode_grammar (mode : String) :
    ((∃ flags, FileMode.parse mode = .ok flags) ↔ ModeGrammar mode) ∧
      (∀ flags, FileMode.parse mode = .ok flags → ModeFlags mode flags) ∧
      (¬ ModeGrammar mode → ∀ taskId path es q,
        Resumption.Follows (SandboxFilesystem.open_ taskId path mode).run es q → es = []) := by
  refine ⟨⟨fun h => h.elim fun _ => FileMode.grammar_of_parse, fun h => ?_⟩, fun flags h => ?_,
    fun h taskId path es q hfollows => ?_⟩
  · obtain ⟨flags, hflags, -⟩ := FileMode.parse_grammar h
    exact ⟨flags, hflags⟩
  · obtain ⟨_, hflags, hnamed⟩ := FileMode.parse_grammar (FileMode.grammar_of_parse h)
    cases h.symm.trans hflags
    exact hnamed
  · obtain ⟨e, he⟩ := open_refused h taskId path
    rw [he] at hfollows
    exact hfollows.of_done.1

/-- The order of the characters does not matter: `+bw` is `wb+` but for the text it keeps. -/
example : (FileMode.parse "+bw").toOption.map (fun m => (m.readable, m.writable, m.binary)) =
    some (true, true, true) := by decide

end ModalRs
