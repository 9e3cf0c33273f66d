/-
  File:      ModalRs/Sandbox/GpuString.lean
  Subject:   The two parsers of GPU strings against the format they document.

  Images read the count as a `u64`, refuse 0 and cast it to a `u32`; sandboxes read
  it as a `u32` and take 0 as it is.

  * `GpuFormat`: "type" or "type:count", with no word on how it is read; `GpuFormat.unique`.
  * `imageGpu_accepts`, `sandboxGpu_accepts`: what each parser makes of a count.
  * `gpuParsers_agree_iff`: the counts for which both follow the format.
-/
import ModalRs.Rust.Decimal
import ModalRs.Sandbox.Wire

namespace ModalRs

open ModalRs.Rust

/-! ## 1. The format -/

/-- The strings of the format, with the type and the count they name. -/
inductive GpuFormat : List Char → List Char → Nat → Prop where
  | type {gpuType : List Char} (hplain : ':' ∉ gpuType) : GpuFormat gpuType gpuType 1
  | typeCount {gpuType digits : List Char} {n : Nat} (hplain : ':' ∉ gpuType)
      (hcount : DecimalInteger digits n) (hpos : 1 ≤ n) (hfits : n < 2 ^ 32) :
      GpuFormat (gpuType ++ ':' :: digits) gpuType n

/-- What a parser says of a string: an error, no GPU, or a type with a count. -/
abbrev GpuReading : Type := Except ModalError (Option (String × Nat))

/-- What the parser for images says. -/
def imageGpu (gpu : String) : GpuReading :=
  (parseGpuConfig gpu).map fun config => some (config.gpuType, config.count.toNat)

/-- What the parser in `sandbox_create` says. -/
def sandboxGpu (gpu : String) : GpuReading :=
  (sandboxGpuConfig gpu).map fun config? =>
    config?.map fun config => (config.gpuType, config.count.toNat)

/-- A parser follows the format on a string: the type in upper case and the count if the string has
    the format, and an error if it does not. -/
structure FollowsFormat (gpu : String) (reading : GpuReading) : Prop where
  accepted : ∀ gpuType n, GpuFormat gpu.toList gpuType n → reading = .ok (some (upper gpuType, n))
  refused : (∀ gpuType n, ¬ GpuFormat gpu.toList gpuType n) → ∃ e, reading = .error e

/-- Both parsers follow it. -/
def GpuParsersAgree (gpu : String) : Prop :=
  FollowsFormat gpu (imageGpu gpu) ∧ FollowsFormat gpu (sandboxGpu gpu)

/-- The count, if there is one, is neither 0 nor a number that a `u64` can hold and a `u32`
    cannot. -/
def CountOrdinary (gpu : String) : Prop :=
  ∀ gpuType digits n, gpu.toList = gpuType ++ ':' :: digits → ':' ∉ gpuType →
    DecimalInteger digits n → n ≠ 0 ∧ (n < 2 ^ 32 ∨ 2 ^ 64 ≤ n)

/-! ## 2. Strings with a colon -/

/-- A string with a colon splits at the first one, and there only. -/
theorem split_colon {cs gpuType digits : List Char} (hplain : ':' ∉ gpuType)
    (h : cs = gpuType ++ ':' :: digits) :
    ':' ∈ cs ∧ cs.takeWhile (· ≠ ':') = gpuType ∧ (cs.dropWhile (· ≠ ':')).drop 1 = digits := by
  have hbefore : ∀ c ∈ gpuType, decide (c ≠ ':') = true := by
    intro c hc
    rw [decide_eq_true_eq]
    rintro rfl
    exact hplain hc
  subst h
  refine ⟨List.mem_append_right _ List.mem_cons_self, ?_, ?_⟩
  · rw [List.takeWhile_append_of_pos hbefore, List.takeWhile_cons_of_neg (by decide),
      List.append_nil]
  · rw [List.dropWhile_append_of_pos hbefore, List.dropWhile_cons_of_neg (by decide)]
    rfl

theorem exists_split_colon {cs : List Char} (h : ':' ∈ cs) :
    ∃ gpuType digits, ':' ∉ gpuType ∧ cs = gpuType ++ ':' :: digits := by
  obtain ⟨gpuType, digits, hcs, hplain⟩ := List.eq_append_cons_of_mem h
  exact ⟨gpuType, digits, hplain, hcs⟩

/-- The format of a string without one. -/
theorem format_plain {cs t : List Char} {n : Nat} (hplain : ':' ∉ cs) (h : GpuFormat cs t n) :
    t = cs ∧ n = 1 := by
  cases h with
  | type => exact ⟨rfl, rfl⟩
  | typeCount => exact absurd (List.mem_append_right _ List.mem_cons_self) hplain

section Counted

variable {gpu : String} {gpuType digits : List Char}

/-- The format of a string with a colon. -/
theorem format_counted_iff (hplain : ':' ∉ gpuType) (h : gpu.toList = gpuType ++ ':' :: digits)
    {t : List Char} {n : Nat} :
    GpuFormat gpu.toList t n ↔ t = gpuType ∧ DecimalInteger digits n ∧ 1 ≤ n ∧ n < 2 ^ 32 := by
  obtain ⟨hcolon, htype, hdigits⟩ := split_colon hplain h
  constructor
  · intro hformat
    generalize hcs : gpu.toList = cs at hformat hcolon htype hdigits
    cases hformat with
    | type hno => exact absurd hcolon hno
    | typeCount hno hcount hpos hfits =>
      obtain ⟨-, htype', hdigits'⟩ := split_colon hno rfl
      rw [← htype, ← hdigits, htype', hdigits']
      exact ⟨rfl, hcount, hpos, hfits⟩
  · rintro ⟨rfl, hcount, hpos, hfits⟩
    rw [h]
    exact .typeCount hplain hcount hpos hfits

/-- A string names one type and one count at most. -/
theorem GpuFormat.unique {t t' : List Char} {n n' : Nat} (h : GpuFormat gpu.toList t n)
    (h' : GpuFormat gpu.toList t' n') : t' = t ∧ n' = n := by
  by_cases hcolon : ':' ∈ gpu.toList
  · obtain ⟨gpuType, digits, hplain, hsplit⟩ := exists_split_colon hcolon
    obtain ⟨rfl, hcount, -, -⟩ := (format_counted_iff hplain hsplit).mp h
    obtain ⟨rfl, hcount', -, -⟩ := (format_counted_iff hplain hsplit).mp h'
    exact ⟨rfl, hcount'.unique hcount⟩
  · obtain ⟨rfl, rfl⟩ := format_plain hcolon h
    exact format_plain hcolon h'

/-- A count out of range is not of the format. -/
theorem no_format_of_count (hplain : ':' ∉ gpuType) (h : gpu.toList = gpuType ++ ':' :: digits)
    (hodd : ∀ n, DecimalInteger digits n → ¬ (1 ≤ n ∧ n < 2 ^ 32)) :
    ∀ t n, ¬ GpuFormat gpu.toList t n := by
  intro t n hn
  obtain ⟨-, hcount, hpos, hfits⟩ := (format_counted_iff hplain h).mp hn
  exact hodd n hcount ⟨hpos, hfits⟩

/-- What is accepted follows the format, if it is what the format names. -/
theorem follows_of_format {reading : GpuReading} {n : Nat} (h : GpuFormat gpu.toList gpuType n)
    (haccepts : reading = .ok (some (upper gpuType, n))) : FollowsFormat gpu reading := by
  refine ⟨fun t m hm => ?_, fun hno => absurd h (hno _ _)⟩
  obtain ⟨rfl, rfl⟩ := h.unique hm
  exact haccepts

/-- What is refused follows the format, if it has none. -/
theorem follows_of_no_format {reading : GpuReading} (hno : ∀ t n, ¬ GpuFormat gpu.toList t n)
    (hrefuses : ∃ e, reading = .error e) : FollowsFormat gpu reading :=
  ⟨fun t n hn => absurd hn (hno t n), fun _ => hrefuses⟩

/-- A string with a colon is not empty. -/
theorem ne_empty_of_split (h : gpu.toList = gpuType ++ ':' :: digits) : gpu ≠ "" := by
  rintro rfl
  exact List.append_ne_nil_of_right_ne_nil _ (List.cons_ne_nil _ _) h.symm

/-- **Images**: what a `u64` can hold is accepted unless it is 0, and cast to a `u32`. -/
theorem imageGpu_accepts (hplain : ':' ∉ gpuType) (h : gpu.toList = gpuType ++ ':' :: digits)
    {n : Nat} (hcount : DecimalInteger digits n) (hpos : 1 ≤ n) (hfits : n < 2 ^ 64) :
    imageGpu gpu = .ok (some (upper gpuType, n % 2 ^ 32)) := by
  obtain ⟨hcolon, htype, hdigits⟩ := split_colon hplain h
  have hread : parseU64 digits = .ok (UInt64.ofNat n) := by
    rw [parseU64, parseUnsigned_ok_iff.mpr ⟨hcount, Nat.le_sub_one_of_lt hfits⟩]
    rfl
  have hnat : (UInt64.ofNat n).toNat = n := UInt64.toNat_ofNat_of_lt' hfits
  have hone : ¬ UInt64.ofNat n < 1 := by
    rw [UInt64.lt_iff_toNat_lt, hnat]
    exact Nat.not_lt.mpr hpos
  rw [imageGpu, parseGpuConfig, if_neg (ne_empty_of_split h), if_pos hcolon]
  simp only [htype, hdigits, hread]
  rw [if_neg hone, Except.map, UInt64.toNat_toUInt32, hnat]

/-- The rest is refused. -/
theorem imageGpu_refuses (hplain : ':' ∉ gpuType) (h : gpu.toList = gpuType ++ ':' :: digits)
    (hno : ∀ n, DecimalInteger digits n → n = 0 ∨ 2 ^ 64 ≤ n) : ∃ e, imageGpu gpu = .error e := by
  obtain ⟨hcolon, htype, hdigits⟩ := split_colon hplain h
  rw [imageGpu, parseGpuConfig, if_neg (ne_empty_of_split h), if_pos hcolon]
  simp only [htype, hdigits]
  cases hread : parseUnsigned (2 ^ 64 - 1) digits with
  | error e =>
    rw [parseU64, hread]
    exact ⟨_, rfl⟩
  | ok n =>
    obtain ⟨hcount, hn⟩ := parseUnsigned_ok_iff.mp hread
    rcases hno n hcount with rfl | hlarge
    · rw [parseU64, hread]
      exact ⟨_, rfl⟩
    · omega

/-- **Sandboxes**: what a `u32` can hold is accepted. -/
theorem sandboxGpu_accepts (hplain : ':' ∉ gpuType) (h : gpu.toList = gpuType ++ ':' :: digits)
    {n : Nat} (hcount : DecimalInteger digits n) (hfits : n < 2 ^ 32) :
    sandboxGpu gpu = .ok (some (upper gpuType, n)) := by
  obtain ⟨hcolon, htype, hdigits⟩ := split_colon hplain h
  have hread : parseU32 digits = .ok (UInt32.ofNat n) := by
    rw [parseU32, parseUnsigned_ok_iff.mpr ⟨hcount, Nat.le_sub_one_of_lt hfits⟩]
    rfl
  have hnat : (UInt32.ofNat n).toNat = n := UInt32.toNat_ofNat_of_lt' hfits
  rw [sandboxGpu, sandboxGpuConfig, if_neg (ne_empty_of_split h), if_pos hcolon]
  simp only [htype, hdigits, hread]
  rw [Except.map, Option.map_some, hnat]

/-- The rest is refused. -/
theorem sandboxGpu_refuses (hplain : ':' ∉ gpuType) (h : gpu.toList = gpuType ++ ':' :: digits)
    (hno : ∀ n, DecimalInteger digits n → 2 ^ 32 ≤ n) : ∃ e, sandboxGpu gpu = .error e := by
  obtain ⟨hcolon, htype, hdigits⟩ := split_colon hplain h
  have hlarge : ∀ n, DecimalInteger digits n → 2 ^ 32 - 1 < n := fun n hcount =>
    Nat.lt_of_lt_of_le (Nat.sub_one_lt (by decide)) (hno n hcount)
  obtain ⟨e, he⟩ := parseUnsigned_error hlarge
  rw [sandboxGpu, sandboxGpuConfig, if_neg (ne_empty_of_split h), if_pos hcolon]
  simp only [htype, hdigits]
  rw [parseU32, he]
  exact ⟨_, rfl⟩

/-- A string without a number behind its colon is refused by both, as the format wants. -/
theorem agree_of_no_count (hplain : ':' ∉ gpuType) (h : gpu.toList = gpuType ++ ':' :: digits)
    (hno : ∀ n, DecimalInteger digits n → 2 ^ 64 ≤ n) : GpuParsersAgree gpu := by
  have hformat : ∀ t n, ¬ GpuFormat gpu.toList t n := by
    refine no_format_of_count hplain h fun n hn => ?_
    have hlarge := hno n hn
    omega
  have hsmall : ∀ n, DecimalInteger digits n → 2 ^ 32 ≤ n := fun n hn =>
    Nat.le_trans (by decide) (hno n hn)
  constructor
  · exact follows_of_no_format hformat (imageGpu_refuses hplain h fun n hn => Or.inr (hno n hn))
  · exact follows_of_no_format hformat (sandboxGpu_refuses hplain h hsmall)

/-- A number that a `u32` can hold, other than 0, is accepted by both. -/
theorem agree_of_count (hplain : ':' ∉ gpuType) (h : gpu.toList = gpuType ++ ':' :: digits)
    {n : Nat} (hcount : DecimalInteger digits n) (hpos : 1 ≤ n) (hfits : n < 2 ^ 32) :
    GpuParsersAgree gpu := by
  have hlarge : n < 2 ^ 64 := Nat.lt_of_lt_of_le hfits (by decide)
  have himage := imageGpu_accepts hplain h hcount hpos hlarge
  have hsandbox := sandboxGpu_accepts hplain h hcount hfits
  rw [Nat.mod_eq_of_lt hfits] at himage
  have hformat : GpuFormat gpu.toList gpuType n :=
    (format_counted_iff hplain h).mpr ⟨rfl, hcount, hpos, hfits⟩
  exact ⟨follows_of_format hformat himage, follows_of_format hformat hsandbox⟩

end Counted

/-! ## 3. Where the parsers part -/

/-- A type alone is read by both. -/
theorem agree_of_plain {gpu : String} (hne : gpu ≠ "") (hplain : ':' ∉ gpu.toList) :
    GpuParsersAgree gpu := by
  have himage : imageGpu gpu = .ok (some (upper gpu.toList, 1)) := by
    rw [imageGpu, parseGpuConfig, if_neg hne, if_neg hplain]
    rfl
  have hsandbox : sandboxGpu gpu = .ok (some (upper gpu.toList, 1)) := by
    rw [sandboxGpu, sandboxGpuConfig, if_neg hne, if_neg hplain]
    rfl
  exact ⟨follows_of_format (.type hplain) himage, follows_of_format (.type hplain) hsandbox⟩

/-- **The counts for which both parsers follow the format**: all but 0, which a sandbox accepts, and
    those from 2^32 to 2^64, which an image accepts as what is left of them in a `u32`. -/
theorem gpuParsers_agree_iff (gpu : String) (hne : gpu ≠ "") :
    GpuParsersAgree gpu ↔ CountOrdinary gpu := by
  constructor
  · intro hagree gpuType digits n h hplain hcount
    have hnoformat : ¬ (1 ≤ n ∧ n < 2 ^ 32) → ∀ t m, ¬ GpuFormat gpu.toList t m := by
      intro hodd
      refine no_format_of_count hplain h fun m hm => ?_
      rw [hm.unique hcount]
      exact hodd
    by_contra hodd
    by_cases hzero : n = 0
    · -- a sandbox takes it
      subst hzero
      obtain ⟨e, he⟩ := hagree.2.refused (hnoformat (by omega))
      rw [sandboxGpu_accepts hplain h hcount (by decide)] at he
      cases he
    · -- an image takes it
      obtain ⟨e, he⟩ := hagree.1.refused (hnoformat (by omega))
      rw [imageGpu_accepts hplain h hcount (by omega) (by omega)] at he
      cases he
  · intro hordinary
    by_cases hcolon : ':' ∈ gpu.toList
    · obtain ⟨gpuType, digits, hplain, h⟩ := exists_split_colon hcolon
      by_cases hcount : ∃ n, DecimalInteger digits n ∧ n < 2 ^ 64
      · obtain ⟨n, hcount, hn⟩ := hcount
        obtain ⟨hzero, hfits⟩ := hordinary gpuType digits n h hplain hcount
        exact agree_of_count hplain h hcount (by omega) (by omega)
      · refine agree_of_no_count hplain h fun n hn => ?_
        exact Nat.le_of_not_lt fun hlt => hcount ⟨n, hn, hlt⟩
    · exact agree_of_plain hne hcolon

/-- The string of the documentation. -/
theorem gpuParsers_agree_a100 : GpuParsersAgree "A100:2" := by
  refine (gpuParsers_agree_iff "A100:2" (by decide)).mpr fun gpuType digits n h hplain hcount => ?_
  obtain ⟨-, -, hdigits⟩ := split_colon hplain h
  have htwo : DecimalInteger ['2'] 2 := .digits (by decide) (List.all_eq_true.mp rfl)
  have hsplit : ("A100:2".toList.dropWhile (· ≠ ':')).drop 1 = ['2'] := by decide
  rw [← hdigits, hsplit] at hcount
  rw [hcount.unique htwo]
  decide

/-- A count of 0 is refused for an image and taken for a sandbox; 2^32 + 1 GPUs are refused for a
    sandbox, and one is ordered for an image. -/
theorem gpuParsers_part :
    (sandboxGpu "T4:0" = .ok (some ("T4", 0)) ∧
      imageGpu "T4:4294967297" = .ok (some ("T4", 1))) ∧
    ¬ ∀ gpu, gpu ≠ "" → GpuParsersAgree gpu := by
  have hplain : ':' ∉ ['T', '4'] := by decide
  have hzero : DecimalInteger ['0'] 0 := .digits (by decide) (List.all_eq_true.mp rfl)
  have hupper : upper ['T', '4'] = "T4" := by decide
  have hsandbox : sandboxGpu "T4:0" = _ := sandboxGpu_accepts hplain rfl hzero (by decide)
  rw [hupper] at hsandbox
  have hlarge : DecimalInteger "4294967297".toList 4294967297 :=
    .digits (by decide) (List.all_eq_true.mp (by decide))
  have himage : imageGpu "T4:4294967297" = _ :=
    imageGpu_accepts hplain rfl hlarge (by decide) (by decide)
  rw [hupper] at himage
  refine ⟨⟨hsandbox, himage⟩, fun hall => ?_⟩
  have hagree := hall "T4:0" (by decide)
  have hnoformat : ∀ t n, ¬ GpuFormat "T4:0".toList t n := by
    have hsplit : "T4:0".toList = ['T', '4'] ++ ':' :: ['0'] := rfl
    refine no_format_of_count hplain hsplit fun n hn => ?_
    rw [hn.unique hzero]
    decide
  obtain ⟨e, he⟩ := hagree.2.refused hnoformat
  rw [hsandbox] at he
  cases he

end ModalRs
