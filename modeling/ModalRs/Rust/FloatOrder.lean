/-
  File:      ModalRs/Rust/FloatOrder.lean
  Subject:   `f64` keeps order: rounding, multiplication and casts to integers are monotone.

  * `divRoundEven_mono`, `f64OfRatio_mono`: a larger ratio is not rounded to less.
  * `spacings`: what a magnitude stands for, in units of `2 ^ (-1074)`; `ratio_mono`.
  * `le_mul`, `asU32_mono`: products with one positive factor, and casts.
-/
import Mathlib.Algebra.Order.Field.Power
import Mathlib.Tactic.Linarith
import Mathlib.Tactic.Positivity
import ModalRs.Rust.Float

namespace ModalRs.Rust

/-! ## 1. Rounding -/

theorem divRoundEven_mono {num den num' den' : Nat} (hden : 0 < den) (hden' : 0 < den')
    (h : num * den' ≤ num' * den) : divRoundEven num den ≤ divRoundEven num' den' := by
  have hnum := Nat.div_add_mod num den
  have hnum' := Nat.div_add_mod num' den'
  have hr := Nat.mod_lt num hden
  have hr' := Nat.mod_lt num' hden'
  simp only [divRoundEven]
  generalize num / den = q at *
  generalize num % den = r at *
  generalize num' / den' = q' at *
  generalize num' % den' = r' at *
  subst hnum
  subst hnum'
  -- both quotients at the common denominator
  have hcommon : q * (den * den') + r * den' ≤ q' * (den * den') + r' * den := by nlinarith
  have hless : r' * den < den * den' := by nlinarith
  have hq : q ≤ q' := by
    by_contra hlt
    have hstep : (q' + 1) * (den * den') ≤ q * (den * den') := Nat.mul_le_mul_right _ (by omega)
    nlinarith
  rcases Nat.lt_or_eq_of_le hq with hlt | rfl
  · split_ifs <;> omega
  · have hrest : r * den' ≤ r' * den := by omega
    have hhalf : den < 2 * r → den' < 2 * r' := by
      intro hlt
      by_contra hle
      nlinarith
    have hhalf' : den ≤ 2 * r → den' ≤ 2 * r' := by
      intro hle
      by_contra hlt
      nlinarith
    split_ifs <;> omega

theorem divRoundEven_mul (k : Nat) {den : Nat} (hden : 0 < den) :
    divRoundEven (k * den) den = k := by
  simp only [divRoundEven]
  rw [Nat.mul_div_cancel _ hden, Nat.mul_mod_left, Nat.mul_zero, if_pos hden]

/-- `num / den` in units of `2 ^ s`, rounded. -/
def roundAt (num den : Nat) (s : Int) : Nat :=
  if 0 ≤ s then divRoundEven num (den * 2 ^ s.toNat)
  else divRoundEven (num * 2 ^ (-s).toNat) den

section Scale

variable {num den num' den' k : Nat} {s : Int}

/-- The ratio that is rounded is that of the units. -/
theorem roundAt_ratio (num : Nat) (hden : 0 < den) (s : Int) :
    ∃ a b : Nat, 0 < b ∧ roundAt num den s = divRoundEven a b ∧
      (a : ℚ) / b = (num : ℚ) / den / 2 ^ s := by
  unfold roundAt
  split
  case isTrue hs =>
    refine ⟨num, den * 2 ^ s.toNat, Nat.mul_pos hden (Nat.two_pow_pos _), rfl, ?_⟩
    have hpow : (2 : ℚ) ^ s = 2 ^ s.toNat := by
      conv_lhs => rw [← Int.toNat_of_nonneg hs]
      exact zpow_natCast _ _
    rw [hpow, Nat.cast_mul, Nat.cast_pow, Nat.cast_ofNat, div_div]
  case isFalse hs =>
    refine ⟨num * 2 ^ (-s).toNat, den, hden, rfl, ?_⟩
    have hneg : s = -((-s).toNat : Int) := by omega
    have hpow : (2 : ℚ) ^ s = (2 ^ (-s).toNat)⁻¹ := by
      conv_lhs => rw [hneg]
      rw [zpow_neg, zpow_natCast]
    rw [hpow, div_inv_eq_mul, Nat.cast_mul, Nat.cast_pow, Nat.cast_ofNat, div_mul_eq_mul_div]

/-- What is at least `k` units is not rounded to less. -/
theorem le_roundAt (hden : 0 < den) (h : (k : ℚ) * 2 ^ s ≤ (num : ℚ) / den) :
    k ≤ roundAt num den s := by
  obtain ⟨a, b, hb, hround, hratio⟩ := roundAt_ratio num hden s
  have hpow : (0 : ℚ) < 2 ^ s := by positivity
  have hk : (k : ℚ) ≤ a / b := by rwa [hratio, le_div_iff₀ hpow]
  rw [le_div_iff₀ (Nat.cast_pos.mpr hb)] at hk
  rw [hround, ← divRoundEven_mul k hb]
  exact divRoundEven_mono hb hb (Nat.mul_le_mul_right _ (by exact_mod_cast hk))

/-- What is at most `k` units is not rounded to more. -/
theorem roundAt_le (hden : 0 < den) (h : (num : ℚ) / den ≤ (k : ℚ) * 2 ^ s) :
    roundAt num den s ≤ k := by
  obtain ⟨a, b, hb, hround, hratio⟩ := roundAt_ratio num hden s
  have hpow : (0 : ℚ) < 2 ^ s := by positivity
  have hk : (a : ℚ) / b ≤ k := by rwa [hratio, div_le_iff₀ hpow]
  rw [div_le_iff₀ (Nat.cast_pos.mpr hb)] at hk
  rw [hround, ← divRoundEven_mul k hb]
  exact divRoundEven_mono hb hb (Nat.mul_le_mul_right _ (by exact_mod_cast hk))

theorem roundAt_mono (hden : 0 < den) (hden' : 0 < den')
    (h : (num : ℚ) / den ≤ (num' : ℚ) / den') : roundAt num den s ≤ roundAt num' den' s := by
  obtain ⟨a, b, hb, hround, hratio⟩ := roundAt_ratio num hden s
  obtain ⟨a', b', hb', hround', hratio'⟩ := roundAt_ratio num' hden' s
  have hle : (a : ℚ) / b ≤ a' / b' := by
    rw [hratio, hratio']
    exact div_le_div_of_nonneg_right h (by positivity)
  rw [div_le_div_iff₀ (Nat.cast_pos.mpr hb) (Nat.cast_pos.mpr hb')] at hle
  rw [hround, hround']
  exact divRoundEven_mono hb hb' (by exact_mod_cast hle)

end Scale

/-! ## 2. The nearest double -/

/-- The exponent of the leading bit of `num / den`. -/
def exponentOf (num den : Nat) : Int :=
  let e₀ : Int := (Nat.log2 num : Int) - Nat.log2 den
  let atLeast : Bool :=
    if 0 ≤ e₀ then den * 2 ^ e₀.toNat ≤ num else den ≤ num * 2 ^ (-e₀).toNat
  if atLeast then e₀ else e₀ - 1

/-- The spacing of the doubles around a number with this exponent. -/
def spacingOf (e : Int) : Int := max (e - 52) (-1074)

theorem f64OfRatio_eq (num den : Nat) :
    f64OfRatio num den = min ((spacingOf (exponentOf num den) + 1074).toNat * 2 ^ 52 +
      roundAt num den (spacingOf (exponentOf num den))) f64Infinity := rfl

section Nearest

variable {num den num' den' : Nat}

theorem zpow_ratio_le (num : Nat) (hden : 0 < den) (e : Int) :
    (if 0 ≤ e then decide (den * 2 ^ e.toNat ≤ num)
      else decide (den ≤ num * 2 ^ (-e).toNat)) = true ↔ (2 : ℚ) ^ e ≤ (num : ℚ) / den := by
  rw [le_div_iff₀ (Nat.cast_pos.mpr hden)]
  split <;> rw [decide_eq_true_eq]
  case isTrue he =>
    have hpow : (2 : ℚ) ^ e = 2 ^ e.toNat := by
      conv_lhs => rw [← Int.toNat_of_nonneg he]
      exact zpow_natCast _ _
    rw [hpow, mul_comm]
    exact_mod_cast Iff.rfl
  case isFalse he =>
    have hneg : e = -((-e).toNat : Int) := by omega
    have hpow : (2 : ℚ) ^ e = (2 ^ (-e).toNat)⁻¹ := by
      conv_lhs => rw [hneg]
      rw [zpow_neg, zpow_natCast]
    rw [hpow, inv_mul_le_iff₀ (by positivity), mul_comm ((2 : ℚ) ^ _)]
    exact_mod_cast Iff.rfl

/-- **The exponent of the leading bit** is that of the largest power of two that is not larger. -/
theorem exponentOf_spec (hnum : 0 < num) (hden : 0 < den) :
    (2 : ℚ) ^ exponentOf num den ≤ (num : ℚ) / den ∧
      (num : ℚ) / den < (2 : ℚ) ^ (exponentOf num den + 1) := by
  have hn : (2 : ℚ) ^ (Nat.log2 num : Int) ≤ num := by
    rw [zpow_natCast]
    exact_mod_cast Nat.log2_self_le (Nat.pos_iff_ne_zero.mp hnum)
  have hn' : (num : ℚ) < 2 ^ ((Nat.log2 num : Int) + 1) := by
    have hlt : num < 2 ^ (Nat.log2 num + 1) := Nat.lt_log2_self
    exact_mod_cast hlt
  have hd : (2 : ℚ) ^ (Nat.log2 den : Int) ≤ den := by
    rw [zpow_natCast]
    exact_mod_cast Nat.log2_self_le (Nat.pos_iff_ne_zero.mp hden)
  have hd' : (den : ℚ) < 2 ^ ((Nat.log2 den : Int) + 1) := by
    have hlt : den < 2 ^ (Nat.log2 den + 1) := Nat.lt_log2_self
    exact_mod_cast hlt
  have hq : (0 : ℚ) < den := Nat.cast_pos.mpr hden
  -- the leading bits of both numbers give the exponent up to one
  have hupper : (num : ℚ) / den < 2 ^ ((Nat.log2 num : Int) - Nat.log2 den + 1) := by
    rw [div_lt_iff₀ hq]
    calc (num : ℚ) < 2 ^ ((Nat.log2 num : Int) + 1) := hn'
      _ = 2 ^ ((Nat.log2 num : Int) - Nat.log2 den + 1) * 2 ^ (Nat.log2 den : Int) := by
          rw [← zpow_add₀ (by norm_num)]
          congr 1
          omega
      _ ≤ 2 ^ ((Nat.log2 num : Int) - Nat.log2 den + 1) * den :=
          mul_le_mul_of_nonneg_left hd (by positivity)
  have hlower : (2 : ℚ) ^ ((Nat.log2 num : Int) - Nat.log2 den - 1) ≤ num / den := by
    rw [le_div_iff₀ hq]
    calc (2 : ℚ) ^ ((Nat.log2 num : Int) - Nat.log2 den - 1) * den
        ≤ 2 ^ ((Nat.log2 num : Int) - Nat.log2 den - 1) * 2 ^ ((Nat.log2 den : Int) + 1) :=
          mul_le_mul_of_nonneg_left hd'.le (by positivity)
      _ = 2 ^ (Nat.log2 num : Int) := by
          rw [← zpow_add₀ (by norm_num)]
          congr 1
          omega
      _ ≤ num := hn
  have hcheck := zpow_ratio_le num hden ((Nat.log2 num : Int) - Nat.log2 den)
  unfold exponentOf
  by_cases hat : (2 : ℚ) ^ ((Nat.log2 num : Int) - Nat.log2 den) ≤ num / den
  · rw [if_pos (hcheck.mpr hat)]
    exact ⟨hat, hupper⟩
  · rw [if_neg fun h => hat (hcheck.mp h), Int.sub_add_cancel]
    exact ⟨hlower, lt_of_not_ge hat⟩

/-- **Rounding to the nearest double is monotone.** -/
theorem f64OfRatio_mono (hnum : 0 < num) (hden : 0 < den) (hnum' : 0 < num') (hden' : 0 < den')
    (h : num * den' ≤ num' * den) : f64OfRatio num den ≤ f64OfRatio num' den' := by
  have hratio : (num : ℚ) / den ≤ num' / den' := by
    rw [div_le_div_iff₀ (Nat.cast_pos.mpr hden) (Nat.cast_pos.mpr hden')]
    exact_mod_cast h
  obtain ⟨hlow, hhigh⟩ := exponentOf_spec hnum hden
  obtain ⟨hlow', hhigh'⟩ := exponentOf_spec hnum' hden'
  rw [f64OfRatio_eq, f64OfRatio_eq]
  generalize exponentOf num den = e at *
  generalize exponentOf num' den' = e' at *
  have he : e ≤ e' := by
    have hlt : (2 : ℚ) ^ e < 2 ^ (e' + 1) := lt_of_le_of_lt (hlow.trans hratio) hhigh'
    exact Int.le_of_lt_add_one ((zpow_lt_zpow_iff_right₀ (by norm_num)).mp hlt)
  refine min_le_min_right _ ?_
  by_cases hsame : spacingOf e = spacingOf e'
  · rw [hsame]
    exact Nat.add_le_add_left (roundAt_mono hden hden' hratio) _
  · -- the spacing grows: less than two binades of the smaller one, at least one of the larger one
    have hgrow : spacingOf e + 1 ≤ spacingOf e' ∧ spacingOf e' = e' - 52 := by
      unfold spacingOf at *
      omega
    have hround : roundAt num den (spacingOf e) ≤ 2 ^ 53 := by
      refine roundAt_le hden (hhigh.le.trans ?_)
      have hexp : e + 1 ≤ 53 + spacingOf e := by
        have := le_max_left (e - 52) (-1074)
        unfold spacingOf
        omega
      calc (2 : ℚ) ^ (e + 1) ≤ 2 ^ (53 + spacingOf e) :=
            zpow_le_zpow_right₀ (by norm_num) hexp
        _ = ((2 ^ 53 : Nat) : ℚ) * 2 ^ spacingOf e := by
            rw [zpow_add₀ (by norm_num)]
            norm_num
    have hround' : 2 ^ 52 ≤ roundAt num' den' (spacingOf e') := by
      refine le_roundAt hden' (le_trans (le_of_eq ?_) hlow')
      have hexp : e' = 52 + spacingOf e' := by omega
      conv_rhs => rw [hexp, zpow_add₀ (by norm_num)]
      norm_num
    have hfloor : -1074 ≤ spacingOf e := le_max_right _ _
    have hfield : (spacingOf e + 1074).toNat + 1 ≤ (spacingOf e' + 1074).toNat := by omega
    have hfields := Nat.mul_le_mul_right (2 ^ 52) hfield
    omega

end Nearest

namespace F64

/-! ## 3. What a magnitude stands for -/

/-- A magnitude in units of `2 ^ (-1074)`. -/
def spacings (m : Nat) : Nat :=
  if m / 2 ^ 52 = 0 then m % 2 ^ 52 else (2 ^ 52 + m % 2 ^ 52) * 2 ^ (m / 2 ^ 52 - 1)

theorem spacings_lt_succ (m : Nat) : spacings m < spacings (m + 1) := by
  have hm := Nat.div_add_mod m (2 ^ 52)
  have hr := Nat.mod_lt m (Nat.two_pow_pos 52)
  unfold spacings
  by_cases hcarry : m % 2 ^ 52 + 1 = 2 ^ 52
  · -- the fraction is full
    have hdiv : (m + 1) / 2 ^ 52 = m / 2 ^ 52 + 1 := by omega
    have hmod : (m + 1) % 2 ^ 52 = 0 := by omega
    rw [hdiv, hmod, if_neg (Nat.succ_ne_zero _), Nat.add_zero, Nat.add_sub_cancel]
    split
    case isTrue hzero =>
      rw [hzero, Nat.pow_zero, Nat.mul_one]
      exact hr
    case isFalse hpos =>
      obtain ⟨f, hf⟩ := Nat.exists_eq_add_one_of_ne_zero hpos
      have hdouble : 2 ^ 52 * 2 ^ (f + 1) = 2 ^ 53 * 2 ^ f := by
        rw [← Nat.pow_add, ← Nat.pow_add]
        congr 1
        omega
      rw [hf, Nat.add_sub_cancel, hdouble]
      exact Nat.mul_lt_mul_of_pos_right (by omega) (Nat.two_pow_pos f)
  · have hdiv : (m + 1) / 2 ^ 52 = m / 2 ^ 52 := by omega
    have hmod : (m + 1) % 2 ^ 52 = m % 2 ^ 52 + 1 := by omega
    rw [hdiv, hmod]
    split
    · exact Nat.lt_succ_self _
    · exact Nat.mul_lt_mul_of_pos_right (by omega) (Nat.two_pow_pos _)

theorem spacings_strictMono : StrictMono spacings := strictMono_nat_of_lt_succ spacings_lt_succ

theorem ratio_den_pos (x : F64) : 0 < (ratio x).2 := by
  unfold ratio
  generalize (1074 : Nat) = least
  simp only
  split_ifs
  · exact Nat.two_pow_pos least
  · exact Nat.one_pos
  · exact Nat.two_pow_pos _

/-- **The ratio of a magnitude**, in units of `2 ^ (-1074)`. -/
theorem ratio_eq (x : F64) : (ratio x).1 * 2 ^ 1074 = spacings (magnitude x) * (ratio x).2 := by
  simp only [ratio, spacings]
  generalize magnitude x / 2 ^ 52 = field
  generalize magnitude x % 2 ^ 52 = fraction
  by_cases hzero : field = 0
  · rw [if_pos hzero, if_pos hzero]
  · rw [if_neg hzero, if_neg hzero]
    by_cases hlarge : 1075 ≤ field
    · rw [if_pos hlarge]
      have hexp : field - 1 = (field - 1075) + 1074 := by omega
      rw [hexp, Nat.pow_add, Nat.mul_one, Nat.mul_assoc]
    · rw [if_neg hlarge]
      have hexp : 1074 = (field - 1) + (1075 - field) := by omega
      conv_lhs => rw [hexp, Nat.pow_add]
      rw [Nat.mul_assoc]

theorem ratio_mono {x y : F64} (h : magnitude x ≤ magnitude y) :
    (ratio x).1 * (ratio y).2 ≤ (ratio y).1 * (ratio x).2 := by
  refine Nat.le_of_mul_le_mul_right ?_ (Nat.two_pow_pos 1074)
  calc (ratio x).1 * (ratio y).2 * 2 ^ 1074
      = (ratio x).1 * 2 ^ 1074 * (ratio y).2 := Nat.mul_right_comm _ _ _
    _ = spacings (magnitude x) * ((ratio x).2 * (ratio y).2) := by rw [ratio_eq, Nat.mul_assoc]
    _ ≤ spacings (magnitude y) * ((ratio x).2 * (ratio y).2) :=
        Nat.mul_le_mul_right _ (spacings_strictMono.monotone h)
    _ = (ratio y).1 * 2 ^ 1074 * (ratio x).2 := by
        rw [ratio_eq, Nat.mul_assoc, Nat.mul_comm (ratio y).2]
    _ = (ratio y).1 * (ratio x).2 * 2 ^ 1074 := Nat.mul_right_comm _ _ _

theorem ratio_pos {x : F64} (h : magnitude x ≠ 0) : 0 < (ratio x).1 := by
  have hpos : 0 < spacings (magnitude x) :=
    lt_of_le_of_lt (Nat.zero_le _) (spacings_strictMono (Nat.pos_of_ne_zero h))
  have heq := ratio_eq x
  by_contra hzero
  have hz : (ratio x).1 = 0 := by omega
  rw [hz, Nat.zero_mul] at heq
  exact absurd heq.symm (Nat.mul_pos hpos (ratio_den_pos x)).ne'

/-! ## 4. Products and casts -/

/-- A positive number that is not infinite. -/
structure IsPositive (c : F64) : Prop where
  sign : negative c = false
  finite : magnitude c < f64Infinity
  nonzero : magnitude c ≠ 0

theorem infinity_lt : f64Infinity < 2 ^ 63 := by decide

theorem magnitude_signed {m : Nat} (h : m ≤ f64Infinity) : magnitude (signed false m) = m := by
  have hlt := infinity_lt
  have hnat : (signed false m).toNat = m := by
    rw [signed, if_neg Bool.false_ne_true,
      UInt64.toNat_ofNat_of_lt' (by simp only [UInt64.size]; omega)]
  rw [magnitude, hnat, Nat.mod_eq_of_lt (by omega)]

theorem negative_signed_false {m : Nat} (h : m ≤ f64Infinity) :
    negative (signed false m) = false := by
  have hlt := infinity_lt
  have hnat : (signed false m).toNat = m := by
    rw [signed, if_neg Bool.false_ne_true,
      UInt64.toNat_ofNat_of_lt' (by simp only [UInt64.size]; omega)]
  rw [negative, hnat, decide_eq_false_iff_not]
  omega

theorem isNaN_signed {m : Nat} (h : m ≤ f64Infinity) : isNaN (signed false m) = false := by
  rw [isNaN, magnitude_signed h, decide_eq_false_iff_not]
  omega

theorem div_le_div_of_ratio {a b c d : Nat} (hb : 0 < b) (hd : 0 < d) (h : a * d ≤ c * b) :
    a / b ≤ c / d := by
  rw [Nat.le_div_iff_mul_le hd]
  refine Nat.le_of_mul_le_mul_right ?_ hb
  calc a / b * d * b = a / b * b * d := Nat.mul_right_comm _ _ _
    _ ≤ a * d := Nat.mul_le_mul_right _ (Nat.div_mul_le_self a b)
    _ ≤ c * b := h

/-- **A cast is monotone** on the numbers that are not negative. -/
theorem castInt_mono {lo hi : Int} (hrange : lo ≤ hi) {x y : F64} (hx : negative x = false)
    (hy : negative y = false) (hnan : isNaN x = false) (hnan' : isNaN y = false)
    (h : magnitude x ≤ magnitude y) : castInt lo hi x ≤ castInt lo hi y := by
  have hmag : magnitude y ≤ f64Infinity := by
    rw [isNaN, decide_eq_false_iff_not] at hnan'
    omega
  unfold castInt
  rw [hnan, hnan', hx, hy]
  simp only [Bool.false_eq_true, if_false]
  by_cases hinf : isInfinite x = true
  · have hinf' : isInfinite y = true := by
      rw [isInfinite, beq_iff_eq] at hinf ⊢
      omega
    rw [if_pos hinf, if_pos hinf']
  · rw [if_neg hinf]
    have hdiv : ((ratio x).1 / (ratio x).2 : Nat) ≤ (ratio y).1 / (ratio y).2 :=
      div_le_div_of_ratio (ratio_den_pos x) (ratio_den_pos y) (ratio_mono h)
    by_cases hinf' : isInfinite y = true
    · rw [if_pos hinf']
      omega
    · rw [if_neg hinf']
      omega

theorem asU32_toNat (x : F64) : (asU32 x).toNat = (castInt 0 (2 ^ 32 - 1) x).toNat := by
  have hbound : castInt 0 (2 ^ 32 - 1) x ≤ 2 ^ 32 - 1 := by
    unfold castInt
    by_cases hnan : isNaN x = true
    · rw [if_pos hnan]
      decide
    · rw [if_neg hnan]
      by_cases hinf : isInfinite x = true
      · rw [if_pos hinf]
        cases negative x <;> decide
      · rw [if_neg hinf]
        exact max_le (by decide) (min_le_left _ _)
  rw [asU32, UInt32.toNat_ofNat_of_lt' (by simp only [UInt32.size]; omega)]

/-- A positive number is not NaN, and has no sign. -/
theorem positive_cases {x : F64} (h : lt 0 x = true) :
    isNaN x = false ∧ negative x = false ∧ magnitude x ≠ 0 := by
  rw [lt, Bool.and_eq_true, Bool.and_eq_true, Bool.not_eq_true', Bool.not_eq_true',
    decide_eq_true_eq] at h
  obtain ⟨⟨-, hnan⟩, hkey⟩ := h
  have hzero : key 0 = 0 := by decide
  rw [hzero] at hkey
  unfold key at hkey
  cases hneg : negative x with
  | true =>
    rw [hneg, if_pos rfl] at hkey
    omega
  | false =>
    rw [hneg, if_neg Bool.false_ne_true] at hkey
    exact ⟨hnan, rfl, by omega⟩

/-- What is not below a positive number is positive and at least as large. -/
theorem not_lt_positive {x y : F64} (hx : lt 0 x = true) (hnan : isNaN y = false)
    (h : lt y x = false) : negative y = false ∧ magnitude x ≤ magnitude y := by
  obtain ⟨hnan', hneg, hmag⟩ := positive_cases hx
  rw [lt, hnan, hnan', Bool.not_false, Bool.true_and, Bool.true_and,
    decide_eq_false_iff_not] at h
  unfold key at h
  rw [hneg, if_neg Bool.false_ne_true] at h
  cases hy : negative y with
  | true =>
    rw [hy, if_pos rfl] at h
    omega
  | false =>
    rw [hy, if_neg Bool.false_ne_true] at h
    exact ⟨rfl, by omega⟩

/-- The magnitude of a product with a positive number. -/
def mulMagnitude (x c : F64) : Nat :=
  if isInfinite x then f64Infinity
  else f64OfRatio ((ratio x).1 * (ratio c).1) ((ratio x).2 * (ratio c).2)

theorem mulMagnitude_le (x c : F64) : mulMagnitude x c ≤ f64Infinity := by
  unfold mulMagnitude
  split
  · exact Nat.le_refl _
  · exact f64OfRatio_le _ _

theorem mul_positive {x c : F64} (hc : IsPositive c) (hnan : isNaN x = false)
    (hneg : negative x = false) (hmag : magnitude x ≠ 0) :
    mul x c = signed false (mulMagnitude x c) := by
  have hcnan : isNaN c = false := by
    have hlt := hc.finite
    rw [isNaN, decide_eq_false_iff_not]
    omega
  have hcinf : isInfinite c = false := by
    rw [isInfinite, beq_eq_false_iff_ne]
    exact Nat.ne_of_lt hc.finite
  have hzero : (decide (magnitude x = 0) || decide (magnitude c = 0)) = false := by
    rw [decide_eq_false hmag, decide_eq_false hc.nonzero]
    rfl
  unfold mul mulMagnitude
  rw [hnan, hcnan, hneg, hc.sign, hcinf, Bool.or_false, Bool.or_false, bne_self_eq_false]
  rcases ratio x with ⟨n, d⟩
  rcases ratio c with ⟨n', d'⟩
  simp only [Bool.false_eq_true, if_false, hzero]
  by_cases hinf : isInfinite x = true
  · rw [if_pos hinf, if_pos hinf]
  · rw [if_neg hinf, if_neg hinf]

theorem mulMagnitude_mono {x y c : F64} (hc : IsPositive c) (hx : magnitude x ≠ 0)
    (hnan : isNaN y = false) (h : magnitude x ≤ magnitude y) :
    mulMagnitude x c ≤ mulMagnitude y c := by
  have hinfinite : magnitude y ≤ f64Infinity := by
    rw [isNaN, decide_eq_false_iff_not] at hnan
    omega
  unfold mulMagnitude
  by_cases hinf : isInfinite y = true
  · rw [if_pos hinf]
    exact mulMagnitude_le x c
  · have hinf' : ¬ isInfinite x = true := by
      rw [isInfinite, beq_iff_eq] at hinf ⊢
      omega
    rw [if_neg hinf, if_neg hinf']
    have hcpos := ratio_pos hc.nonzero
    refine f64OfRatio_mono (Nat.mul_pos (ratio_pos hx) hcpos)
      (Nat.mul_pos (ratio_den_pos x) (ratio_den_pos c))
      (Nat.mul_pos (ratio_pos (by omega)) hcpos) (Nat.mul_pos (ratio_den_pos y) (ratio_den_pos c)) ?_
    calc (ratio x).1 * (ratio c).1 * ((ratio y).2 * (ratio c).2)
        = (ratio x).1 * (ratio y).2 * ((ratio c).1 * (ratio c).2) :=
          Nat.mul_mul_mul_comm _ _ _ _
      _ ≤ (ratio y).1 * (ratio x).2 * ((ratio c).1 * (ratio c).2) :=
          Nat.mul_le_mul_right _ (ratio_mono h)
      _ = (ratio y).1 * (ratio c).1 * ((ratio x).2 * (ratio c).2) :=
          Nat.mul_mul_mul_comm _ _ _ _

/-- **Scaled by a positive number and cast to `u32`, numbers keep their order**: all that `y` is not
    below, unless `y` is NaN. -/
theorem asU32_mul_mono {x y c : F64} (hc : IsPositive c) (hnan : isNaN y = false)
    (h : lt y x = false) : asU32 (mul x c) ≤ asU32 (mul y c) := by
  by_cases hpos : lt 0 x = true
  · obtain ⟨hxnan, hxneg, hxmag⟩ := positive_cases hpos
    obtain ⟨hyneg, hle⟩ := not_lt_positive hpos hnan h
    rw [mul_positive hc hxnan hxneg hxmag, mul_positive hc hnan hyneg (by omega),
      UInt32.le_iff_toNat_le, asU32_toNat, asU32_toNat]
    have hx := mulMagnitude_le x c
    have hy := mulMagnitude_le y c
    refine Int.toNat_le_toNat (castInt_mono (by decide) (negative_signed_false hx)
      (negative_signed_false hy) (isNaN_signed hx) (isNaN_signed hy) ?_)
    rw [magnitude_signed hx, magnitude_signed hy]
    exact mulMagnitude_mono hc hxmag hnan hle
  · rw [asU32_mul_of_not_pos hc.sign hpos]
    exact UInt32.zero_le

end F64

end ModalRs.Rust
