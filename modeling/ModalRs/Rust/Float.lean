/-
  File:      ModalRs/Rust/Float.lean
  Subject:   `f64` beyond parsing: comparison, multiplication, casts to integers, and its texts.

  A float is its bit pattern; what it stands for is an exact ratio. Results are
  those of round to nearest, ties to even. Every NaN that comes out is the quiet one.
-/
import Mathlib.Tactic.ByContra
import ModalRs.Rust.Parse
import ModalRs.Rust.Time

namespace ModalRs.Rust.F64

/-! ## 1. Values -/

def negative (x : F64) : Bool := 2 ^ 63 ≤ x.toNat

/-- The bits without the sign. -/
def magnitude (x : F64) : Nat := x.toNat % 2 ^ 63

def isNaN (x : F64) : Bool := f64Infinity < magnitude x

def isInfinite (x : F64) : Bool := magnitude x == f64Infinity

/-- What the magnitude of a finite float stands for. -/
def ratio (x : F64) : Nat × Nat :=
  let field := magnitude x / 2 ^ 52
  let fraction := magnitude x % 2 ^ 52
  if field = 0 then (fraction, 2 ^ 1074)
  else if 1075 ≤ field then ((2 ^ 52 + fraction) * 2 ^ (field - 1075), 1)
  else (2 ^ 52 + fraction, 2 ^ (1075 - field))

/-- Orders the floats that are not NaN; both zeros are 0. -/
def key (x : F64) : Int := if negative x then -(magnitude x : Int) else magnitude x

/-- `x < y`. -/
def lt (x y : F64) : Bool := !isNaN x && !isNaN y && key x < key y

/-- `x == y`. -/
def beq (x y : F64) : Bool := !isNaN x && !isNaN y && key x == key y

/-! ## 2. Arithmetic -/

def quietNaN : F64 := 0x7FF8000000000000

def signed (neg : Bool) (magnitude : Nat) : F64 :=
  UInt64.ofNat (if neg then magnitude + 2 ^ 63 else magnitude)

/-- `x * y`. -/
def mul (x y : F64) : F64 :=
  let neg := negative x != negative y
  if isNaN x || isNaN y then quietNaN
  else if isInfinite x || isInfinite y then
    if magnitude x = 0 || magnitude y = 0 then quietNaN else signed neg f64Infinity
  else if magnitude x = 0 || magnitude y = 0 then signed neg 0
  else
    let (n, d) := ratio x
    let (n', d') := ratio y
    signed neg (f64OfRatio (n * n') (d * d'))

/-- A cast to an integer type from `lo` to `hi`: towards zero, and saturating; NaN is 0. -/
def castInt (lo hi : Int) (x : F64) : Int :=
  if isNaN x then 0
  else if isInfinite x then if negative x then lo else hi
  else
    let (n, d) := ratio x
    let whole : Int := if negative x then -(n / d : Nat) else (n / d : Nat)
    max lo (min hi whole)

/-- `x as u32`. -/
def asU32 (x : F64) : UInt32 := UInt32.ofNat (castInt 0 (2 ^ 32 - 1) x).toNat

/-- `x as i64`. -/
def asI64 (x : F64) : Int64 := Int64.ofInt (castInt (-2 ^ 63) (2 ^ 63 - 1) x)

/-- NaN is cast to 0. -/
theorem castInt_of_isNaN {lo hi : Int} {x : F64} (h : isNaN x = true) : castInt lo hi x = 0 :=
  if_pos h

/-- A zero is cast to 0. -/
theorem castInt_of_zero {hi : Int} {x : F64} (hhi : 0 ≤ hi) (h : magnitude x = 0) :
    castInt 0 hi x = 0 := by
  have hnan : ¬ isNaN x = true := by rw [isNaN, h]; decide
  have hinf : ¬ isInfinite x = true := by rw [isInfinite, h]; decide
  have hratio : (ratio x).1 = 0 := by
    unfold ratio
    rw [h, Nat.zero_div, Nat.zero_mod, if_pos rfl]
  have hzero : max 0 (min hi 0) = 0 := by rw [Int.min_eq_right hhi, Int.max_self]
  rw [castInt, if_neg hnan, if_neg hinf]
  simp only [hratio, Nat.zero_div, Int.natCast_zero, Int.neg_zero, ite_self]
  exact hzero

/-- A negative number is cast to 0, the least number of an unsigned type. -/
theorem castInt_of_negative {hi : Int} {x : F64} (h : negative x = true) :
    castInt 0 hi x = 0 := by
  unfold castInt
  split
  · rfl
  · split
    · rfl
    · have hneg : (-((ratio x).1 / (ratio x).2 : Nat) : Int) ≤ 0 :=
        Int.neg_nonpos_of_nonneg (Int.natCast_nonneg _)
      exact Int.max_eq_left (Int.le_trans (Int.min_le_right hi _) hneg)

/-- The sign of a float that is put together. -/
theorem negative_signed {m : Nat} (h : m ≤ f64Infinity) : negative (signed true m) = true := by
  have hsize : f64Infinity < 2 ^ 63 := by decide
  have hnat : (signed true m).toNat = m + 2 ^ 63 := by
    rw [signed, if_pos rfl, UInt64.toNat_ofNat_of_lt' (by simp only [UInt64.size]; omega)]
  rw [negative, hnat, decide_eq_true_eq]
  exact Nat.le_add_left _ _

theorem f64OfRatio_le (num den : Nat) : f64OfRatio num den ≤ f64Infinity := Nat.min_le_right _ _

/-- What is not positive is NaN, negative or a zero. -/
theorem not_lt_zero_cases {x : F64} (h : ¬ lt 0 x = true) :
    isNaN x = true ∨ negative x = true ∨ magnitude x = 0 := by
  by_contra hpos
  rw [not_or, not_or] at hpos
  obtain ⟨hnan, hneg, hmag⟩ := hpos
  apply h
  have hkey : key x = magnitude x := if_neg hneg
  have hzero : key 0 = 0 := by decide
  have hzeroNaN : isNaN 0 = false := by decide
  rw [lt, hzeroNaN, Bool.eq_false_iff.mpr hnan, hkey, hzero, Bool.not_false, Bool.and_self,
    Bool.true_and, decide_eq_true_eq]
  exact Int.natCast_pos.mpr (Nat.pos_of_ne_zero hmag)

/-- **A product with a number that is not negative** is cast to 0 unless the other is positive. -/
theorem asU32_mul_of_not_pos {x y : F64} (hy : negative y = false) (h : ¬ lt 0 x = true) :
    asU32 (mul x y) = 0 := by
  have hhi : (0 : Int) ≤ 2 ^ 32 - 1 := by decide
  have hquiet : isNaN quietNaN = true := by decide
  suffices hcast : castInt 0 (2 ^ 32 - 1) (mul x y) = 0 by
    rw [asU32, hcast]
    rfl
  rw [mul, hy, Bool.bne_false]
  by_cases hnan : (isNaN x || isNaN y) = true
  · rw [if_pos hnan]
    exact castInt_of_isNaN hquiet
  · by_cases hzero : (decide (magnitude x = 0) || decide (magnitude y = 0)) = true
    · rw [if_neg hnan, if_pos hzero, if_pos hzero]
      split
      · exact castInt_of_isNaN hquiet
      · apply castInt_of_zero hhi
        cases negative x <;> decide
    · -- the sign is that of `x`
      have hneg : negative x = true := by
        rw [Bool.or_eq_true, not_or] at hnan
        rw [Bool.or_eq_true, not_or, decide_eq_true_eq] at hzero
        rcases not_lt_zero_cases h with hx | hx | hx
        · exact absurd hx hnan.1
        · exact hx
        · exact absurd hx hzero.1
      rw [if_neg hnan, if_neg hzero, if_neg hzero, hneg]
      split
      · exact castInt_of_negative (negative_signed (Nat.le_refl _))
      · exact castInt_of_negative (negative_signed (f64OfRatio_le _ _))

/-! ## 3. Texts -/

/-- The decimal text of `m * 10 ^ e`, without an exponent. -/
def decimalText (m : Nat) (e : Int) : String :=
  let digits := Nat.toDigits 10 m
  if 0 ≤ e then String.ofList (digits ++ List.replicate e.toNat '0')
  else
    let places := (-e).toNat
    let padded := List.replicate (places + 1 - digits.length) '0' ++ digits
    String.ofList (padded.take (padded.length - places)) ++ "." ++
      String.ofList (padded.drop (padded.length - places))

/-- The decimal with `p` digits that is closest to `n / d` among those that read back as
    `magnitude`, if there is one; `k` is the exponent of the first digit. -/
def closestDecimal (magnitude n d : Nat) (k : Int) (p : Nat) : Option (Nat × Int) :=
  let e := k - (p - 1 : Nat)
  let (n', d') := if 0 ≤ e then (n, d * 10 ^ e.toNat) else (n * 10 ^ (-e).toNat, d)
  let below := n' / d'
  let readsBack (m : Nat) : Bool := f64OfDecimal m e == magnitude
  let upFirst : Bool := d' < 2 * (n' % d')
  let (first, second) := if upFirst then (below + 1, below) else (below, below + 1)
  if readsBack first then some (first, e) else if readsBack second then some (second, e) else none

/-- `{}` of a positive finite magnitude: the fewest digits that read back as the same float. -/
def shortestText (x : F64) : String :=
  let (n, d) := ratio x
  let k₀ : Int := ((Nat.toDigits 10 n).length : Int) - (Nat.toDigits 10 d).length
  let atLeast : Bool := if 0 ≤ k₀ then d * 10 ^ k₀.toNat ≤ n else d ≤ n * 10 ^ (-k₀).toNat
  let k := if atLeast then k₀ else k₀ - 1
  match (List.range 17).findSome? fun p => closestDecimal (magnitude x) n d k (p + 1) with
  | some (m, e) => decimalText m e
  | none => ""

def withSign (x : F64) (finite : String) : String :=
  if isNaN x then "NaN"
  else (if negative x then "-" else "") ++ if isInfinite x then "inf" else finite

/-- `{}`. -/
def display (x : F64) : String :=
  withSign x (if magnitude x = 0 then "0" else shortestText x)

/-- `{:.*}`, with so many decimal places. -/
def displayFixed (places : Nat) (x : F64) : String :=
  let (n, d) := ratio x
  withSign x (decimalText (divRoundEven (n * 10 ^ places) d) (-(places : Int)))

example : display 0x3FB999999999999A = "0.1" ∧ displayFixed 6 0x3F80000000000000 = "0.007812" := by
  decide +kernel

/-! ## 4. Durations -/

/-- The double nearest to `num / den`. -/
def ofRatio (num den : Nat) : F64 := if num = 0 then 0 else UInt64.ofNat (f64OfRatio num den)

/-- `x + y` of two finite floats that are not negative. -/
def addPositive (x y : F64) : F64 :=
  let (n, d) := ratio x
  let (n', d') := ratio y
  ofRatio (n * d' + n' * d) (d * d')

/-- `d.as_secs_f64()`. -/
def ofDuration (d : Duration) : F64 :=
  addPositive (ofRatio (d / 1000000000) 1) (ofRatio (d % 1000000000) 1000000000)

example : displayFixed 1 (ofDuration (Duration.fromMillis 1250)) = "1.2" ∧
    displayFixed 1 (ofDuration (Duration.fromMillis 500)) = "0.5" ∧ ofDuration 0 = 0 := by
  decide +kernel

/-- `Duration::try_from_secs_f64`: to the nearest nanosecond, ties to even. -/
def toDuration (secs : F64) : Option Duration :=
  if isNaN secs || isInfinite secs || lt secs 0 then none
  else
    let (n, d) := ratio secs
    let nanos := divRoundEven (n * 1000000000) d
    if nanos ≤ Duration.max then some nanos else none

/-- `Duration::from_secs_f64`, which panics where there is no such duration. -/
def fromSecsF64 {ε : Type} (secs : F64) : Res ε Duration :=
  match toDuration secs with
  | some d => .ok d
  | none => .error (.panic .unwrapNone)

end ModalRs.Rust.F64
